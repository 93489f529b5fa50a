import GatewayRecipes.Proofs.Registry.Recording
import Mathlib.Data.List.Forall2

/-! Which parser handles an element, and what one more parser changes. Where its elements stand only
below elements that were handled before, it changes nothing, and it keeps all that stands below its
elements out of every load. -/
namespace GatewayRecipes

/-- Whether an element stands below another one, be it a child of that or further down. -/
def Occurrence.Below (o q : Occurrence) : Prop := ∃ k, (q.element, k) :: q.path <:+ o.path

def Occurrence.BelowNamed (o : Occurrence) (name : String) : Prop :=
  ∃ q, q.element.name = name ∧ o.Below q

namespace Element

/-- Whoever stands on the way to an element of a document is an element of it as well, and has the
rest of that way before it. -/
lemma ancestor_cases {e : Element} {path : List (Element × Nat)} {o q : Occurrence} {k : Nat}
    (h : o ∈ e.occurrencesFrom path) (hq : (q.element, k) :: q.path <:+ o.path) :
    (q.element, k) :: q.path <:+ path ∨ q ∈ e.occurrencesFrom path := by
  induction e using childInduction generalizing path with
  | step e ih =>
    rw [occurrencesFrom_eq, List.mem_cons] at h
    rcases h with rfl | h
    · exact .inl hq
    · obtain ⟨i, c, hc, ho⟩ := mem_occurrencesBelow h
      rw [occurrencesFrom_eq, List.mem_cons]
      rcases ih c (List.mem_of_getElem? hc) ho with hway | hmem
      · rcases List.suffix_cons_iff.mp hway with hlast | hbefore
        · obtain ⟨element, way⟩ := q
          obtain ⟨⟨rfl, -⟩, rfl⟩ : (element = e ∧ k = 0 + i) ∧ way = path := by simpa using hlast
          exact .inr (.inl rfl)
        · exact .inl hbefore
      · exact .inr (.inr (occurrencesFrom_subset_below hc hmem))

lemma mem_occurrences_of_below {root : Element} {o q : Occurrence} (h : o ∈ root.occurrences)
    (hbelow : o.Below q) : q ∈ root.occurrences := by
  obtain ⟨k, hq⟩ := hbelow
  rcases ancestor_cases h hq with hnil | hmem
  · simp at hnil
  · exact hmem

end Element

namespace Occurrence

lemma Below.mem_path {o q : Occurrence} (h : o.Below q) : ∃ k, (q.element, k) ∈ o.path :=
  h.imp fun _ hq => hq.subset (List.mem_cons_self ..)

lemma exists_below_of_mem_path {o : Occurrence} {a : Element × Nat} (h : a ∈ o.path) :
    ∃ q, q.element = a.1 ∧ o.Below q := by
  obtain ⟨nearer, further, hpath⟩ := List.append_of_mem h
  exact ⟨⟨a.1, further⟩, rfl, a.2, nearer, hpath.symm⟩

end Occurrence

namespace Registry
open Element
variable {r : Registry} {p : DefinitionParser} {root : Element}

/-- Whether elements of a name stand only below elements that are loaded. -/
def Covers (r : Registry) (name : String) (root : Element) : Prop :=
  ∀ o ∈ root.occurrences, o.element.name = name → ∃ q ∈ r.handled root, o.Below q

def withParsers (r : Registry) (parsers : List DefinitionParser) : Registry :=
  parsers.foldl withParser r

/-- It is enough that a parser is found on the way to each of them: the farthest element with one
is loaded. -/
lemma covers_of_parsers {name : String}
    (h : ∀ o ∈ root.occurrences, o.element.name = name →
      ∃ a ∈ o.path, (r.parserFor? a.1.name).isSome = true) : r.Covers name root := by
  intro o ho hname
  obtain ⟨a, ha, hsome⟩ := h o ho hname
  have hfound : (o.path.reverse.find? fun b => (r.parserFor? b.1.name).isSome).isSome :=
    List.find?_isSome.mpr ⟨a, List.mem_reverse.mpr ha, hsome⟩
  obtain ⟨b, hb⟩ := Option.isSome_iff_exists.mp hfound
  obtain ⟨hparser, further, nearer, hsplit, hfurther⟩ := List.find?_eq_some_iff_append.mp hb
  have hpath : o.path = nearer.reverse ++ b :: further.reverse := by
    rw [← List.reverse_reverse o.path, hsplit]
    simp
  have hbelow : o.Below ⟨b.1, further.reverse⟩ := ⟨b.2, nearer.reverse, hpath.symm⟩
  refine ⟨_, List.mem_filter.mpr ⟨mem_occurrences_of_below ho hbelow, ?_⟩, hbelow⟩
  rw [handles_iff]
  exact ⟨Option.isSome_iff_ne_none.mp hparser, fun c hc => by
    simpa using hfurther c (List.mem_reverse.mp hc)⟩

/-! Parsers by the names of elements. -/

lemma parserFor?_withParser (r : Registry) (p : DefinitionParser) (name : String) :
    (r.withParser p).parserFor? name = if p.element = name then some p else r.parserFor? name := by
  by_cases h : p.element = name
  · simp [parserFor?, withParser, h]
  · simp [parserFor?, withParser, h]

lemma parserFor?_withParser_of_ne {name : String} (h : name ≠ p.element) :
    (r.withParser p).parserFor? name = r.parserFor? name := by
  rw [parserFor?_withParser, if_neg (Ne.symm h)]

lemma parserFor?_withParser_ne_none {name : String} (h : r.parserFor? name ≠ none) :
    (r.withParser p).parserFor? name ≠ none := by
  rw [parserFor?_withParser]
  split
  · exact Option.some_ne_none p
  · exact h

/-- Parsers for other names that are added later leave a name to its parser. -/
lemma parserFor?_withParsers {name : String} {later : List DefinitionParser}
    (h : ∀ q ∈ later, q.element ≠ name) :
    (r.withParsers later).parserFor? name = r.parserFor? name := by
  induction later generalizing r with
  | nil => rfl
  | cons q rest ih =>
    obtain ⟨hq, hrest⟩ := List.forall_mem_cons.mp h
    rw [withParsers, List.foldl_cons, ← withParsers, ih hrest, parserFor?_withParser_of_ne hq.symm]

lemma parserFor?_withParsers_ne_none {name : String} (h : r.parserFor? name ≠ none)
    (later : List DefinitionParser) : (r.withParsers later).parserFor? name ≠ none := by
  induction later generalizing r with
  | nil => exact h
  | cons q rest ih => exact ih (parserFor?_withParser_ne_none h)

lemma parserFor?_afterAll (r : Registry) (calls : List LoadCall) (name : String) :
    (r.afterAll calls).parserFor? name = r.parserFor? name := by
  obtain ⟨added, -, -, h⟩ := r.afterAll_eq_append calls
  rw [h]
  rfl

/-! One more parser whose elements are covered. -/

section
variable {o : Occurrence}

lemma Covers.exists_parser (h : r.Covers p.element root) (ho : o ∈ root.occurrences)
    (hname : o.element.name = p.element) : ∃ a ∈ o.path, r.parserFor? a.1.name ≠ none := by
  obtain ⟨q, hq, hbelow⟩ := h o ho hname
  obtain ⟨k, hk⟩ := hbelow.mem_path
  exact ⟨_, hk, ((r.handles_iff q).mp (List.mem_filter.mp hq).2).1⟩

lemma Covers.handles_withParser (h : r.Covers p.element root) (ho : o ∈ root.occurrences) :
    (r.withParser p).handles o = r.handles o := by
  rw [Bool.eq_iff_iff, handles_iff, handles_iff]
  constructor
  · rintro ⟨hparser, hpath⟩
    have hpath' : ∀ a ∈ o.path, r.parserFor? a.1.name = none := fun a ha =>
      by_contra fun hsome => parserFor?_withParser_ne_none hsome (hpath a ha)
    have hname : o.element.name ≠ p.element := fun hname => by
      obtain ⟨a, ha, hsome⟩ := h.exists_parser ho hname
      exact hsome (hpath' a ha)
    rw [parserFor?_withParser_of_ne hname] at hparser
    exact ⟨hparser, hpath'⟩
  · rintro ⟨hparser, hpath⟩
    refine ⟨parserFor?_withParser_ne_none hparser, fun a ha => ?_⟩
    -- an ancestor with the new name would have a handled element above it, and so would `o`
    have hname : a.1.name ≠ p.element := fun hname => by
      obtain ⟨q, hq, hbelow⟩ := Occurrence.exists_below_of_mem_path ha
      obtain ⟨b, hb, hsome⟩ := h.exists_parser (mem_occurrences_of_below ho hbelow) (hq ▸ hname)
      obtain ⟨k, hk⟩ := hbelow
      exact hsome (hpath b (hk.subset (List.mem_cons_of_mem _ hb)))
    rw [parserFor?_withParser_of_ne hname]
    exact hpath a ha

lemma Covers.handled_withParser (h : r.Covers p.element root) :
    (r.withParser p).handled root = r.handled root :=
  List.filter_congr fun _ ho => h.handles_withParser ho

lemma Covers.name_ne (h : r.Covers p.element root) (ho : o ∈ r.handled root) :
    o.element.name ≠ p.element := by
  intro hname
  obtain ⟨hmem, hhandles⟩ := List.mem_filter.mp ho
  obtain ⟨a, ha, hsome⟩ := h.exists_parser hmem hname
  exact hsome (((r.handles_iff o).mp hhandles).2 a ha)

lemma register_withParser (h : o.element.name ≠ p.element) (staged : Table Recipe) :
    (r.withParser p).register staged o = r.register staged o := by
  rw [register, register, parserFor?_withParser_of_ne h]
  rfl

lemma foldlM_register_withParser {l : List Occurrence}
    (h : ∀ o ∈ l, o.element.name ≠ p.element) (staged : Table Recipe) :
    l.foldlM (r.withParser p).register staged = l.foldlM r.register staged := by
  induction l generalizing staged with
  | nil => rfl
  | cons o rest ih =>
    obtain ⟨ho, hrest⟩ := List.forall_mem_cons.mp h
    simp only [List.foldlM_cons, register_withParser ho, ih hrest]

/-- A load goes as it went before, notices included. -/
theorem Covers.load_withParser (h : r.Covers p.element root) :
    (r.withParser p).load root =
      (fun outcome => (outcome.1.withParser p, outcome.2)) <$> r.load root := by
  rw [load_eq_foldlM, load_eq_foldlM, h.handled_withParser,
    foldlM_register_withParser fun o ho => h.name_ne ho]
  simp only [map_bind, map_pure]
  rfl

end

section
variable {call : LoadCall}

lemma run_withParser (h : ∀ root, call.root? = some root → r.Covers p.element root) :
    call.run (r.withParser p) =
      (fun outcome => (outcome.1.withParser p, outcome.2)) <$> call.run r := by
  obtain ⟨-, report, -, hfail⟩ | ⟨root, steps, hroot, hload⟩ := call.run_cases
  · rw [hfail, hfail]
    rfl
  · rw [hload, hload, (h root hroot).load_withParser, Traced.map_eq, Traced.map_eq]
    apply Traced.ext
    · rfl
    · simp only [Traced.result_mapError]
      cases (r.load root).result with
      | error report => rfl
      | ok outcome => rfl

lemma after_withParser (h : ∀ root, call.root? = some root → r.Covers p.element root) :
    (r.withParser p).after (call.run (r.withParser p)) = (r.after (call.run r)).withParser p := by
  rw [run_withParser h, Traced.map_eq, after, after]
  cases (call.run r).result with
  | error report => rfl
  | ok outcome => rfl

lemma Covers.after (h : r.Covers p.element root) (call : LoadCall) :
    (r.after (call.run r)).Covers p.element root := by
  obtain ⟨added, -, -, heq⟩ := r.after_run call
  rw [heq]
  exact h

/-- Nor is there a difference over any number of calls. -/
theorem outcomes_withParser {calls : List LoadCall}
    (h : ∀ call ∈ calls, ∀ root, call.root? = some root → r.Covers p.element root) :
    (r.withParser p).outcomes calls = r.outcomes calls := by
  induction calls generalizing r with
  | nil => rfl
  | cons call rest ih =>
    obtain ⟨hcall, hrest⟩ := List.forall_mem_cons.mp h
    have hlater := ih fun c hc root hroot => (hrest c hc root hroot).after call
    have hanswer :
        (call.run (r.withParser p)).result.map (·.2) = (call.run r).result.map (·.2) := by
      rw [run_withParser hcall, Traced.map_eq]
      cases (call.run r).result with
      | error report => rfl
      | ok outcome => rfl
    simp only [outcomes, after_withParser hcall, hanswer, hlater]
    rfl

end

/-! What stands below elements that have a parser. -/

/-- Whether the parser of an element makes a definition of it, under whatever name. -/
def Makes (r : Registry) (o : Occurrence) (definition : String × Recipe) : Prop :=
  ∃ p, r.parserFor? o.element.name = some p ∧
    (p.parse o.element (modeAt o)).result = .ok definition.2

section
variable {name : String} {call : LoadCall}

lemma not_below_of_handled (hname : r.parserFor? name ≠ none) {o : Occurrence}
    (ho : o ∈ r.handled root) : ¬ o.BelowNamed name := by
  rintro ⟨q, rfl, hbelow⟩
  obtain ⟨k, hk⟩ := hbelow.mem_path
  exact hname (((r.handles_iff o).mp (List.mem_filter.mp ho).2).2 _ hk)

lemma forall₂_makes {l : List Occurrence} {staged : Table Recipe}
    (h : (l.foldlM r.register []).result = .ok staged)
    (hl : ∀ o ∈ l, ∃ p, r.parserFor? o.element.name = some p) :
    List.Forall₂ r.Makes l staged := by
  refine Traced.foldlM_induction (fun before staged =>
    (∀ o ∈ before, ∃ p, r.parserFor? o.element.name = some p) → List.Forall₂ r.Makes before staged)
    ?_ (fun _ => .nil) h hl
  intro before o staged next hs hstep hbefore
  obtain ⟨hearlier, hlast⟩ := List.forall_mem_append.mp hbefore
  obtain ⟨p, hp⟩ := List.forall_mem_singleton.mp hlast
  obtain ⟨hnone, -⟩ | ⟨q, recipe, hq, hparse, -, -, rfl⟩ := register_cases hstep
  · cases hnone.symm.trans hp
  · exact List.rel_append (hs hearlier) (.cons ⟨q, hq, hparse⟩ .nil)

/-- What a call appends comes of elements that stand below none of a name with a parser. -/
lemma exists_sources (hname : r.parserFor? name ≠ none) {loaded : Registry} {n : Nat}
    (h : (call.run r).result = .ok (loaded, n)) :
    ∃ root sources added, call.root? = some root ∧ sources.Sublist root.occurrences ∧
      (∀ o ∈ sources, ¬ o.BelowNamed name) ∧ List.Forall₂ r.Makes sources added ∧
      loaded = r.extend added ∧ n = added.length := by
  obtain ⟨root, hroot, hload⟩ := exists_root_of_run h
  obtain ⟨staged, hstaged, -, rfl, rfl⟩ := load_cases hload
  exact ⟨root, r.handled root, staged, hroot, List.filter_sublist,
    fun o ho => not_below_of_handled hname ho,
    forall₂_makes hstaged fun o => exists_parser_of_handled, rfl, rfl⟩

/-- What a call fails with, once it has a tree, comes of such an element too. -/
lemma exists_source_of_error (hname : r.parserFor? name ≠ none) {report : Report}
    (h : (call.run r).result = .error report) :
    call.root? = none ∨ ∃ root o staged steps inner, call.root? = some root ∧
      o ∈ root.occurrences ∧ ¬ o.BelowNamed name ∧ r.Refused staged o inner ∧
      report = ⟨steps ++ inner.steps, inner.cause⟩ := by
  obtain ⟨hroot, -⟩ | ⟨root, steps, hroot, hload⟩ := call.run_cases
  · exact .inl hroot
  · rw [hload, Traced.result_mapError] at h
    cases hresult : (r.load root).result with
    | ok outcome => rw [hresult] at h; cases h
    | error inner =>
      rw [hresult] at h
      cases h
      obtain ⟨before, o, after, staged, hsplit, -, hrefused⟩ := load_eq_error_iff.mp hresult
      have ho : o ∈ r.handled root := hsplit ▸ by simp
      exact .inr ⟨root, o, staged, steps, inner, hroot, (List.mem_filter.mp ho).1,
        not_below_of_handled hname ho, hrefused, rfl⟩

end

/-- An element is handled by the parser for its name that was added last. One more parser changes
nothing in any run of calls as long as its elements stand only below elements that are loaded
without it. From then on, whatever is added and loaded besides, definitions and errors come of
elements alone that do not stand below an element of its name. -/
theorem withParser_isolated (r : Registry) (p : DefinitionParser) :
    (∀ later, (∀ q ∈ later, q.element ≠ p.element) → ∀ calls position staged e,
      e.name = p.element →
      let s := ((r.withParser p).withParsers later).afterAll calls
      s.walk position staged e = s.stage p position e staged) ∧
    (∀ calls, (∀ call ∈ calls, ∀ root, call.root? = some root → r.Covers p.element root) →
      (r.withParser p).outcomes calls = r.outcomes calls) ∧
    ∀ later calls (call : LoadCall),
      let s := ((r.withParser p).withParsers later).afterAll calls
      (∀ loaded n, (call.run s).result = .ok (loaded, n) →
        ∃ root sources added, call.root? = some root ∧ sources.Sublist root.occurrences ∧
          (∀ o ∈ sources, ¬ o.BelowNamed p.element) ∧ List.Forall₂ s.Makes sources added ∧
          loaded = s.extend added ∧ n = added.length) ∧
      ∀ report, (call.run s).result = .error report →
        call.root? = none ∨ ∃ root o staged steps inner, call.root? = some root ∧
          o ∈ root.occurrences ∧ ¬ o.BelowNamed p.element ∧ s.Refused staged o inner ∧
          report = ⟨steps ++ inner.steps, inner.cause⟩ := by
  have hadded : (r.withParser p).parserFor? p.element = some p := by
    rw [parserFor?_withParser, if_pos rfl]
  refine ⟨?_, fun calls => outcomes_withParser, ?_⟩
  · intro later hlater calls position staged e he s
    apply walk_of_handled
    rw [he, parserFor?_afterAll, parserFor?_withParsers hlater, hadded]
  · intro later calls call s
    have hname : s.parserFor? p.element ≠ none := by
      rw [parserFor?_afterAll]
      exact parserFor?_withParsers_ne_none (by simp [hadded]) later
    exact ⟨fun loaded n => exists_sources hname, fun report => exists_source_of_error hname⟩

def gatewaysWithMethods : Element :=
  let method := (Element.named "method").withAttribute "name" "m"
  (Element.named "beans").withChildren
    [((Element.named "gateway").withAttribute "id" "a").withChildren [method],
      ((Element.named "chain").withAttribute "id" "c").withChildren
        [Element.named "filter", (Element.named "gateway").withChildren [method, method]]]

/-- A parser of methods is never asked, be it in a load that succeeds or in one that fails. One of
chains hides what stands in them. -/
theorem withParser_isolated_methods :
    let methods := DefinitionParser.marking "method" .gatewayMethodMetadata "own"
    let chains := DefinitionParser.marking "chain" .gatewayProxyFactory "own"
    let calls := [LoadCall.element gatewaysWithMethods, .element gatewaysWithMethods,
      .file (fun _ => .error .notFound) "more.xml"]
    (∀ call ∈ calls, ∀ root, call.root? = some root → standard.Covers "method" root) ∧
      (standard.withParser methods).outcomes calls = standard.outcomes calls ∧
      (standard.afterAll calls).names = ["a", "c$child#1"] ∧
      ((standard.withParser chains).afterAll calls).names = ["a", "c"] := by
  intro methods chains calls
  have hcovers : standard.Covers "method" gatewaysWithMethods := covers_of_parsers (by decide)
  have hcalls : ∀ call ∈ calls, ∀ root, call.root? = some root →
      standard.Covers "method" root := by
    have hload : ∀ root, (LoadCall.element gatewaysWithMethods).root? = some root →
        standard.Covers "method" root := fun root hroot => Option.some.inj hroot ▸ hcovers
    exact List.forall_mem_cons.mpr ⟨hload, List.forall_mem_cons.mpr
      ⟨hload, List.forall_mem_singleton.mpr fun root hroot => by cases hroot⟩⟩
  exact ⟨hcalls, (withParser_isolated standard methods).2.1 calls hcalls, rfl, rfl⟩

end Registry
end GatewayRecipes
