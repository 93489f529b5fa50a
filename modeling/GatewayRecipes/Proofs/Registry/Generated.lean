import GatewayRecipes.Proofs.Registry.Numbering
import GatewayRecipes.Proofs.Registry.Taken
import Mathlib.Tactic.IntervalCases

/-! The search for a generated name. It ends after at most as many counters as there are names, and
so no element that gets its name from it is ever refused for this name. -/
namespace GatewayRecipes.Registry
open Element
variable {r : Registry} {staged : Table Recipe}

/-- The search among the counters below any bound finds the lowest free one below it. -/
lemma find?_counted {kind : RecipeKind} {n limit : Nat} (hn : n < limit)
    (hfree : counted kind n ∉ r.names ++ staged.keys)
    (hbelow : ∀ m < n, counted kind m ∈ r.names ++ staged.keys) :
    ((List.range limit).map (counted kind)).find? (fun name => !r.isTaken staged name) =
      some (counted kind n) := by
  rw [List.find?_map, Option.map_eq_some_iff]
  refine ⟨n, List.find?_range_eq_some.mpr ⟨?_, List.mem_range.mpr hn, fun m hm => ?_⟩, rfl⟩
  · simpa using (r.isTaken_iff_mem staged _).not.mpr hfree
  · simpa using (r.isTaken_iff_mem staged _).mpr (hbelow m hm)

/-- An element that is refused for its name has an id, or stands in a chain that has one. -/
lemma NameTaken.hasId {call : LoadCall} {before : List Occurrence} {o : Occurrence} {name : String}
    (h : r.NameTaken call before staged o name) :
    o.element.hasText "id" = true ∨
      ∃ chain, o.parent? = some chain ∧ chain.name = "chain" ∧ chain.hasText "id" = true := by
  by_contra! hnone
  obtain ⟨hid, hchain⟩ := hnone
  obtain ⟨p, -, hname⟩ := h.named
  have hown : r.nameAt staged p.kind o = r.generatedName staged p.kind := by
    rw [nameAt_eq_ownName fun parent hparent hc => by simpa using hchain parent hparent hc,
      ownName_of_no_id (textAttribute?_of_not_hasText hid)]
  obtain ⟨n, hn, hfree, -⟩ := r.generatedName_cases staged p.kind
  have hinUse := List.mem_append.mpr h.inUse
  rw [← hname, hown, hn] at hinUse
  exact hfree hinUse

/-- An element without an id, not directly in a chain with an id, gets the lowest counted name of
its kind that is neither registered nor staged. Its counter is at most the number of these names,
so a search that has more counters than that finds it. Only other elements are refused for their
names. -/
theorem generated_name_lowest (r : Registry) :
    (∀ (staged : Table Recipe) (kind : RecipeKind) (position : Position) (e : Element),
      e.textAttribute? "id" = none → position.chainId? = none →
      ∃ n ≤ r.size + staged.length, r.componentName staged kind position e = counted kind n ∧
        counted kind n ∉ r.names ∧ counted kind n ∉ staged.keys ∧
        (∀ m < n, counted kind m ∈ r.names ∨ counted kind m ∈ staged.keys) ∧
        ∀ limit > r.size + staged.length,
          ((List.range limit).map (counted kind)).find? (fun name => !r.isTaken staged name) =
            some (r.componentName staged kind position e)) ∧
    ∀ (call : LoadCall) report name, (call.run r).result = .error report →
      report.cause = .duplicateComponent name →
      ∃ before staged o, r.NameTaken call before staged o name ∧
        ["registering " ++ describe o.element] <:+ report.steps ∧
        (o.element.hasText "id" = true ∨
          ∃ chain, o.parent? = some chain ∧ chain.name = "chain" ∧ chain.hasText "id" = true) := by
  constructor
  · intro staged kind position e noId noChain
    have hname : r.componentName staged kind position e = r.generatedName staged kind := by
      simp only [componentName, noChain, noId]
    obtain ⟨n, hn, hfree, hbelow⟩ := r.generatedName_cases staged kind
    have hle : n ≤ r.size + staged.length := by
      have hused := le_length_of_used hbelow
      rwa [List.length_append, names, Table.keys, Table.keys, List.length_map,
        List.length_map] at hused
    rw [hname, hn]
    refine ⟨n, hle, rfl, ?_, ?_, fun m hm => List.mem_append.mp (hbelow m hm), fun limit hl => ?_⟩
    · exact fun hm => hfree (List.mem_append_left _ hm)
    · exact fun hm => hfree (List.mem_append_right _ hm)
    · exact find?_counted (by omega) hfree hbelow
  · intro call report name herror hcause
    obtain ⟨before, staged, o, htaken, hsteps⟩ := exists_nameTaken herror hcause
    exact ⟨before, staged, o, htaken, hsteps, htaken.hasId⟩

/-- A registered `#0` and `#2` and a staged `#1` leave `#3`. In a load of a tree, a counter so found
may be the id of a later element, which is the one that is refused. -/
theorem generated_name_lowest_gap :
    let recipe : Recipe := ⟨.gatewayProxyFactory, []⟩
    let r := standard.extend
      [("gateway-proxy-factory#2", recipe), ("x", recipe), ("gateway-proxy-factory#0", recipe)]
    let staged := [("gateway-proxy-factory#1", recipe)]
    let gateway := Element.named "gateway"
    let later := gateway.withAttribute "id" "gateway-proxy-factory#1"
    let document := (Element.named "beans").withChildren [gateway, later]
    r.componentName staged .gatewayProxyFactory ⟨none, 0⟩ gateway = "gateway-proxy-factory#3" ∧
    (r.load document).result = .error ⟨["registering <gateway id=\"gateway-proxy-factory#1\">"],
      .duplicateComponent "gateway-proxy-factory#1"⟩ ∧
    ∃ before staged o, r.NameTaken (.element document) before staged o "gateway-proxy-factory#1" ∧
      (o.element.hasText "id" = true ∨
        ∃ chain, o.parent? = some chain ∧ chain.name = "chain" ∧ chain.hasText "id" = true) := by
  intro recipe r staged gateway later document
  have herror : ((LoadCall.element document).run r).result =
      .error ⟨["registering <gateway id=\"gateway-proxy-factory#1\">"],
        .duplicateComponent "gateway-proxy-factory#1"⟩ := by rfl
  refine ⟨?_, herror, ?_⟩
  · obtain ⟨n, -, hname, hfree, hfree', hbelow, -⟩ :=
      (generated_name_lowest r).1 staged .gatewayProxyFactory ⟨none, 0⟩ gateway rfl rfl
    have hle : n ≤ 3 := by
      by_contra! hlt
      exact absurd (hbelow 3 hlt) (by decide)
    rw [hname]
    interval_cases n
    · exact absurd (by decide) hfree
    · exact absurd (by decide) hfree'
    · exact absurd (by decide) hfree
    · rfl
  · obtain ⟨before, staged, o, htaken, -, hid⟩ := (generated_name_lowest r).2 _ _ _ herror rfl
    exact ⟨before, staged, o, htaken, hid⟩

end GatewayRecipes.Registry
