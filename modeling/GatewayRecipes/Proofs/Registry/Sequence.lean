import GatewayRecipes.Proofs.Registry.History
import Mathlib.Algebra.Ring.Nat

/-! Loading trees one after the other, and loading one tree that holds them all. A definition that
is staged and one that is registered stand in the way of a new name alike, so both come to the
same. -/
namespace GatewayRecipes.Registry

def extend (r : Registry) (added : Table Recipe) : Registry :=
  { r with definitions := r.definitions ++ added }

/-- Whatever is registered, the standard registry has no other parser. -/
lemma parserFor?_standard_extend {definitions : Table Recipe} {name : String}
    {p : DefinitionParser} (h : (standard.extend definitions).parserFor? name = some p) :
    p = .gateway := by
  have hm := List.mem_of_find?_eq_some h
  simpa [standard, extend, withParser, empty] using hm

/-- What the standard registry loads are gateways. -/
lemma parserFor?_of_handled {definitions : Table Recipe} {root : Element} :
    ∀ o ∈ (standard.extend definitions).handled root,
      (standard.extend definitions).parserFor? o.element.name = some .gateway := by
  intro o ho
  obtain ⟨p, hp⟩ := exists_parser_of_handled ho
  rw [hp, parserFor?_standard_extend hp]

/-- Load trees one after the other, up to the first that fails. The answer is the registry after
all of them, with the number of definitions of each. -/
def loadEach (r : Registry) : List Element → Except Report (Registry × List Nat)
  | [] => .ok (r, [])
  | root :: rest => do
    let (loaded, n) ← (r.load root).result
    let (final, counts) ← loaded.loadEach rest
    return (final, n :: counts)

section
variable (r : Registry) (a b : Table Recipe)

@[simp] lemma extend_nil : r.extend [] = r := by
  rw [extend, List.append_nil]

lemma extend_append : r.extend (a ++ b) = (r.extend a).extend b := by
  rw [extend, extend, extend, List.append_assoc]

lemma mem_extend_iff (name : String) :
    (name ∈ (r.extend a).names ∨ name ∈ b.keys) ↔
      (name ∈ r.names ∨ name ∈ Table.keys (a ++ b)) := by
  rw [names, names, extend, Table.mem_keys_append, Table.mem_keys_append, or_assoc]

lemma generatedName_extend (kind : RecipeKind) :
    (r.extend a).generatedName b kind = r.generatedName (a ++ b) kind := by
  have htaken : (r.extend a).isTaken b = r.isTaken (a ++ b) := by
    funext name
    rw [Bool.eq_iff_iff, isTaken_iff, isTaken_iff, mem_extend_iff]
  have hlength : (r.extend a).definitions.length + b.length =
      r.definitions.length + (a ++ b).length := by
    simp only [extend, List.length_append]
    omega
  rw [generatedName, generatedName, htaken, hlength]

lemma nameAt_extend (kind : RecipeKind) (o : Occurrence) :
    (r.extend a).nameAt b kind o = r.nameAt (a ++ b) kind o := by
  simp only [nameAt, ownName, generatedName_extend]

/-- Where earlier definitions are kept makes no difference to a step. -/
lemma register_extend (o : Occurrence) :
    r.register (a ++ b) o = (a ++ ·) <$> (r.extend a).register b o := by
  have hp : (r.extend a).parserFor? o.element.name = r.parserFor? o.element.name := rfl
  simp only [register, hp, nameAt_extend, mem_extend_iff]
  cases r.parserFor? o.element.name with
  | none => rfl
  | some p =>
    dsimp only
    cases (p.parse o.element (modeAt o)).result with
    | error cause => rfl
    | ok recipe =>
      dsimp only
      split
      · rfl
      · rw [Traced.map_eq, Except.map, List.append_assoc]

/-- Nor does it make one to a fold of steps. -/
lemma foldlM_register_extend (l : List Occurrence) :
    l.foldlM r.register (a ++ b) = (a ++ ·) <$> l.foldlM (r.extend a).register b := by
  induction l generalizing b with
  | nil => simp
  | cons o rest ih =>
    simp only [List.foldlM_cons, register_extend, map_bind, bind_map_left, ih]

end

/-- Directly below the root of a tree, elements are loaded as roots of their own are, unless that
is a chain. -/
lemma walk_below {r : Registry} {root : Element} (noChain : root.name ≠ "chain") (i : Nat)
    (staged : Table Recipe) (c : Element) :
    r.walk ⟨some root, i⟩ staged c = r.walk ⟨none, 0⟩ staged c := by
  have hchain : (⟨some root, i⟩ : Position).chain? = none := by
    simp [Position.chain?, Option.filter, noChain]
  have hid : (⟨some root, i⟩ : Position).chainId? = none := by
    rw [Position.chainId?, hchain]
    rfl
  have hmode : (⟨some root, i⟩ : Position).mode = (⟨none, 0⟩ : Position).mode := by
    rw [Position.mode, hchain]
    rfl
  have hroot : (⟨none, 0⟩ : Position).chainId? = none := rfl
  obtain ⟨name, attributes, children⟩ := c
  simp only [walk]
  cases r.parserFor? name with
  | none => rfl
  | some p =>
    simp only [stage, hmode, componentName_of_no_chain hid, componentName_of_no_chain hroot]

/-- A walk behind staged definitions stages what a load on top of them registers. -/
lemma walk_root_extend (r : Registry) (staged : Table Recipe) (c : Element) :
    r.walk ⟨none, 0⟩ staged c =
      (staged ++ ·) <$> ((r.extend staged).handled c).foldlM (r.extend staged).register [] := by
  have hpath : ∀ a ∈ ([] : List (Element × Nat)), r.parserFor? a.1.name = none :=
    List.forall_mem_nil _
  have hstaged := r.foldlM_register_extend staged [] (r.handled c)
  rw [List.append_nil] at hstaged
  exact (r.walk_eq_foldlM hpath staged).trans hstaged

lemma result_load (r : Registry) (root : Element) :
    (r.load root).result = (((r.handled root).foldlM r.register []).result).map
      fun staged => (r.extend staged, staged.length) := by
  rw [load_eq_foldlM, Traced.result_bind]
  cases ((r.handled root).foldlM r.register []).result with
  | error report => rfl
  | ok staged => rfl

/-- A walk over children stages one after the other what loads of them register. -/
lemma walkChildren_eq_loadEach (r : Registry) {root : Element} (noChain : root.name ≠ "chain")
    (i : Nat) (staged : Table Recipe) (children : List Element) :
    (r.walkChildren root i staged children).result.map
        (fun all => (r.extend all, all.length)) =
      ((r.extend staged).loadEach children).map
        fun answer => (answer.1, staged.length + answer.2.sum) := by
  -- By induction on the children, for what is staged before them.
  induction children generalizing i staged with
  | nil => rfl
  | cons c rest ih =>
    rw [walkChildren, Traced.result_bind, walk_below noChain, walk_root_extend, Traced.map_eq,
      loadEach, result_load]
    cases (((r.extend staged).handled c).foldlM (r.extend staged).register []).result with
    | error report => rfl
    | ok added =>
      have hrest := ih (i + 1) (staged ++ added)
      rw [extend_append] at hrest
      change (r.walkChildren root (i + 1) (staged ++ added) rest).result.map _ = _
      rw [hrest]
      change _ = (((r.extend staged).extend added).loadEach rest >>= _).map _
      cases ((r.extend staged).extend added).loadEach rest with
      | error report => rfl
      | ok answer =>
        obtain ⟨final, counts⟩ := answer
        change Except.ok _ = Except.ok _
        simp [Nat.add_assoc]

theorem result_load_eq_loadEach (r : Registry) {root : Element}
    (passed : r.parserFor? root.name = none) (noChain : root.name ≠ "chain") :
    (r.load root).result =
      (r.loadEach root.children).map fun answer => (answer.1, answer.2.sum) := by
  have hchildren := r.walkChildren_eq_loadEach noChain 0 [] root.children
  rw [result_load, ← walk_root, walk_of_passed passed, hchildren, extend_nil]
  simp

lemma loadEach_of_failure {r loaded : Registry} {before rest : List Element} {failing : Element}
    {counts : List Nat} {report : Report} (hbefore : r.loadEach before = .ok (loaded, counts))
    (hfailing : (loaded.load failing).result = .error report) :
    r.loadEach (before ++ failing :: rest) = .error report := by
  induction before generalizing r counts with
  | nil =>
    cases hbefore
    rw [List.nil_append, loadEach, hfailing]
    rfl
  | cons root before ih =>
    rw [loadEach] at hbefore
    rw [List.cons_append, loadEach]
    cases hroot : (r.load root).result with
    | error e => rw [hroot] at hbefore; cases hbefore
    | ok first =>
      obtain ⟨next, n⟩ := first
      rw [hroot] at hbefore
      change (next.loadEach before >>= _) = _ at hbefore
      change (next.loadEach _ >>= _) = _
      cases hnext : next.loadEach before with
      | error e => rw [hnext] at hbefore; cases hbefore
      | ok answer =>
        obtain ⟨final, more⟩ := answer
        rw [hnext] at hbefore
        cases hbefore
        rw [ih hnext]
        rfl

/-- A load of a tree whose root has no parser and is no chain comes to loading its children one
after the other. If all of these loads succeed, it gives the same registry and the sum of their
counts. If one fails, it fails with the error of the first that does, and registers nothing. And
if it succeeds, so do they. -/
theorem load_eq_loadEach (r : Registry) (root : Element) (passed : r.parserFor? root.name = none)
    (noChain : root.name ≠ "chain") :
    (∀ final counts, r.loadEach root.children = .ok (final, counts) →
      (r.load root).result = .ok (final, counts.sum)) ∧
    (∀ before failing rest loaded counts report, root.children = before ++ failing :: rest →
      r.loadEach before = .ok (loaded, counts) → (loaded.load failing).result = .error report →
      (r.load root).result = .error report ∧ r.after (r.load root) = r) ∧
    ∀ loaded n, (r.load root).result = .ok (loaded, n) →
      ∃ counts, r.loadEach root.children = .ok (loaded, counts) ∧ counts.sum = n := by
  have h := r.result_load_eq_loadEach passed noChain
  refine ⟨?_, ?_, ?_⟩
  · intro final counts hall
    rw [h, hall]
    rfl
  · intro before failing rest loaded counts report hchildren hbefore hfailing
    have herror : (r.load root).result = .error report := by
      rw [h, hchildren, loadEach_of_failure hbefore hfailing]
      rfl
    exact ⟨herror, after_of_error herror⟩
  · intro loaded n hok
    rw [h] at hok
    cases hall : r.loadEach root.children with
    | error report => rw [hall] at hok; cases hok
    | ok answer =>
      obtain ⟨final, counts⟩ := answer
      rw [hall] at hok
      cases hok
      exact ⟨counts, rfl, rfl⟩

def mixedGateways : List Element :=
  [Element.named "gateway", (Element.named "gateway").withAttribute "id" "gateway-proxy-factory#1",
    ((Element.named "chain").withAttribute "id" "c").withChildren [Element.named "gateway"],
    Element.named "gateway"]

/-- All together they get the names that they get one by one, and a repeated id is reported alike
wherever the first of them was kept. -/
theorem load_eq_loadEach_mixed :
    let root := (Element.named "beans").withChildren mixedGateways
    let again := root.withChildren [(Element.named "gateway").withAttribute "id" "c$child#0"]
    standard.parserFor? "beans" = none ∧ "beans" ≠ "chain" ∧
      (∃ loaded, (standard.load root).result = .ok (loaded, 4) ∧
        loaded.names = ["gateway-proxy-factory#0", "gateway-proxy-factory#1", "c$child#0",
          "gateway-proxy-factory#2"]) ∧
      (standard.load again).result =
        .error ⟨["registering <gateway id=\"c$child#0\">"], .duplicateComponent "c$child#0"⟩ := by
  intro root again
  have passed : standard.parserFor? "beans" = none := rfl
  have noChain : "beans" ≠ "chain" := by decide
  refine ⟨passed, noChain, ?_, ?_⟩
  · exact ⟨_, (load_eq_loadEach standard root passed noChain).1 _ [1, 1, 1, 1] rfl, rfl⟩
  · exact ((load_eq_loadEach standard again passed noChain).2.1 mixedGateways _ [] _ [1, 1, 1, 1] _
      rfl rfl rfl).1

end GatewayRecipes.Registry
