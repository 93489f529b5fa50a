import GatewayRecipes.Markup.Document
import GatewayRecipes.Proofs.Markup.Attribute
import GatewayRecipes.Proofs.Table

/-! Events as the traversal of element trees. What the builder makes of a traversal are the trees
themselves, as long as they are not too high for the elements that are open around them. -/
namespace GatewayRecipes

namespace Element

mutual

/-- The number of elements on the longest way down, the element itself included. -/
def height : Element → Nat
  | ⟨_, _, children⟩ => heights children + 1

/-- The height of the highest element. -/
def heights : List Element → Nat
  | [] => 0
  | e :: rest => max e.height (heights rest)

end

@[simp] lemma height_mk (name : String) (attributes : Table String) (children : List Element) :
    height ⟨name, attributes, children⟩ = heights children + 1 := by rw [height]

@[simp] lemma heights_nil : heights [] = 0 := by rw [heights]

@[simp] lemma heights_cons (e : Element) (rest : List Element) :
    heights (e :: rest) = max e.height (heights rest) := by rw [heights]

@[simp] lemma heights_append (es fs : List Element) :
    heights (es ++ fs) = max (heights es) (heights fs) := by
  induction es with
  | nil => simp
  | cons e rest ih => simp [ih, Nat.max_assoc]

lemma heights_le {es : List Element} {n : Nat} (h : ∀ e ∈ es, e.height ≤ n) : heights es ≤ n := by
  induction es with
  | nil => simp
  | cons e rest ih =>
    rw [heights_cons]
    have hrest := ih fun f hf => h f (List.mem_cons_of_mem e hf)
    exact Nat.max_le.mpr ⟨h e (List.mem_cons_self ..), hrest⟩

/-- Setting distinct attributes one by one repeats their list. -/
lemma withAttributes_named {attributes : Table String} (h : attributes.Distinct) (name : String) :
    (named name).withAttributes attributes = ⟨name, attributes, []⟩ := by
  have hfresh := Table.Fresh.putAll_eq_append (t := []) ⟨h, by simp [Table.keys]⟩
  rw [withAttributes, named, hfresh, List.nil_append]

end Element

namespace Markup
open Element (heights)

/-- Whether events are the tags of some elements, one element after the other: of each one tag
without content, or a start tag, the tags of its children and an end tag. -/
inductive Traversals : List Event → List Element → Prop
  | nil : Traversals [] []
  | empty {inside : List Char} {attributes : Table String} {rest : List Event}
      {others : List Element} (ha : ReadsAttributes inside attributes)
      (hrest : Traversals rest others) :
      Traversals (.empty inside :: rest) (⟨tagName inside, attributes, []⟩ :: others)
  | tags {inside : List Char} {attributes : Table String} {body rest : List Event}
      {children others : List Element} (ha : ReadsAttributes inside attributes)
      (hbody : Traversals body children) (hrest : Traversals rest others) :
      Traversals (.start inside :: (body ++ .stop :: rest))
        (⟨tagName inside, attributes, children⟩ :: others)

lemma Traversals.append {events more : List Event} {es fs : List Element}
    (h : Traversals events es) (hmore : Traversals more fs) :
    Traversals (events ++ more) (es ++ fs) := by
  induction h with
  | nil => exact hmore
  | empty ha _ ih => exact .empty ha ih
  | tags ha hbody _ _ ih =>
    rw [List.cons_append, List.append_assoc, List.cons_append]
    exact .tags ha hbody ih

/-- The events that matter: tags, and what cannot be read. -/
def tagEvents (steps : List Step) : List Event := (steps.map (·.event)).filter (· ≠ .other)

@[simp] lemma tagEvents_nil : tagEvents [] = [] := rfl

lemma tagEvents_singleton {s : Step} {e : Event} (hs : s.event = e) (he : e ≠ .other) :
    tagEvents [s] = [e] := by
  simp [tagEvents, hs, he]

lemma tagEvents_cons (s : Step) (steps : List Step) :
    tagEvents (s :: steps) = tagEvents [s] ++ tagEvents steps := by
  simp only [tagEvents, List.map_cons, List.map_nil, ← List.filter_append, List.cons_append,
    List.nil_append]

namespace Builder

lemma elementOf_eq_ok_iff (position : Nat) (inside : List Char) (e : Element) :
    elementOf position inside = .ok e ↔
      ∃ attributes, ReadsAttributes inside attributes ∧ ⟨tagName inside, attributes, []⟩ = e := by
  simp only [← tagAttributes_eq_ok_iff]
  rw [elementOf]
  cases h : tagAttributes inside with
  | error fault => simp
  | ok attributes =>
    have hdistinct := ((tagAttributes_eq_ok_iff inside attributes).mp h).distinct
    simp [Element.withAttributes_named hdistinct]

lemma run_of_step {b b' : Builder} {s : Step} (h : b.step s = .ok b') (steps : List Step) :
    b.run (s :: steps) = b'.run steps := by
  rw [run, h]

lemma run_of_error {b : Builder} {s : Step} {error : DocumentError} (h : b.step s = .error error)
    (steps : List Step) : b.run (s :: steps) = .error error := by
  rw [run, h]

lemma run_append_of_run {b b' : Builder} {steps : List Step} (h : b.run steps = .ok b')
    (more : List Step) : b.run (steps ++ more) = b'.run more := by
  induction steps generalizing b with
  | nil =>
    cases h
    rfl
  | cons s rest ih =>
    cases hs : b.step s with
    | error error => cases (run_of_error hs rest).symm.trans h
    | ok b₁ =>
      rw [run_of_step hs] at h
      rw [List.cons_append, run_of_step hs, ih h]

/-- Put closed elements where they belong, one after the other. -/
def attachAll (b : Builder) : List Element → Except DocumentError Builder
  | [] => .ok b
  | e :: rest =>
    match b.attach e with
    | .ok b' => b'.attachAll rest
    | .error error => .error error

@[simp] lemma attachAll_within (parent : Element) (outer : List Element) (root : Option Element)
    (es : List Element) :
    attachAll ⟨parent :: outer, root⟩ es =
      .ok ⟨{ parent with children := es.reverse ++ parent.children } :: outer, root⟩ := by
  induction es generalizing parent with
  | nil =>
    cases parent
    rw [attachAll]
    rfl
  | cons e rest ih =>
    rw [attachAll]
    simp only [attach]
    rw [ih]
    simp

lemma opened_attach {b b' : Builder} {e : Element} (h : b.attach e = .ok b') :
    b'.opened.length = b.opened.length := by
  unfold attach at h
  split at h
  · next hopened =>
    cases h
    simp [hopened]
  · split at h
    · cases h
    · cases h
      rfl

section
variable {b b' : Builder} {s : Step} {inside : List Char}

lemma step_start {attributes : Table String} (hs : s.event = .start inside)
    (ha : ReadsAttributes inside attributes) (hdepth : b.opened.length < maxDepth) :
    b.step s = .ok { b with opened := ⟨tagName inside, attributes, []⟩ :: b.opened } := by
  have he := (elementOf_eq_ok_iff s.position inside _).mpr ⟨attributes, ha, rfl⟩
  simp only [step, hs, if_pos hdepth, he]
  rfl

lemma step_empty {attributes : Table String} (hs : s.event = .empty inside)
    (ha : ReadsAttributes inside attributes) (hdepth : b.opened.length < maxDepth) :
    b.step s = b.attach ⟨tagName inside, attributes, []⟩ := by
  have he := (elementOf_eq_ok_iff s.position inside _).mpr ⟨attributes, ha, rfl⟩
  simp only [step, hs, if_pos hdepth, he]

lemma exists_of_step_start (hs : s.event = .start inside) (h : b.step s = .ok b') :
    b.opened.length < maxDepth ∧ ∃ attributes, ReadsAttributes inside attributes ∧
      b' = { b with opened := ⟨tagName inside, attributes, []⟩ :: b.opened } := by
  simp only [step, hs] at h
  split at h
  · next hdepth =>
    cases he : elementOf s.position inside with
    | error error =>
      rw [he] at h
      cases h
    | ok e =>
      rw [he] at h
      cases h
      obtain ⟨attributes, ha, rfl⟩ := (elementOf_eq_ok_iff ..).mp he
      exact ⟨hdepth, attributes, ha, rfl⟩
  · cases h

lemma exists_of_step_empty (hs : s.event = .empty inside) (h : b.step s = .ok b') :
    b.opened.length < maxDepth ∧ ∃ attributes, ReadsAttributes inside attributes ∧
      b.attach ⟨tagName inside, attributes, []⟩ = .ok b' := by
  simp only [step, hs] at h
  split at h
  · next hdepth =>
    cases he : elementOf s.position inside with
    | error error =>
      rw [he] at h
      cases h
    | ok e =>
      rw [he] at h
      obtain ⟨attributes, ha, rfl⟩ := (elementOf_eq_ok_iff ..).mp he
      exact ⟨hdepth, attributes, ha, h⟩
  · cases h

end

lemma step_stop {s : Step} (hs : s.event = .stop) (e : Element) (outer : List Element)
    (root : Option Element) :
    step ⟨e :: outer, root⟩ s = attach ⟨outer, root⟩ (finished e) := by
  simp only [step, hs]

/-- Events that do not matter leave no trace. -/
lemma run_filter (b : Builder) (steps : List Step) :
    b.run (steps.filter (·.event ≠ .other)) = b.run steps := by
  induction steps generalizing b with
  | nil => rfl
  | cons s rest ih =>
    by_cases hs : s.event = .other
    · have : b.step s = .ok b := by simp only [step, hs]
      rw [run_of_step this, ← ih]
      simp [hs]
    · rw [List.filter_cons_of_pos (by simpa using hs), run, run]
      cases b.step s with
      | error error => rfl
      | ok b' => exact ih b'

/-- The traversal of some elements puts these where they belong. The induction is on the traversal;
the depth of the builder and the height of what is left are bounded together. -/
lemma run_of_traversals {events : List Event} {es : List Element} (h : Traversals events es)
    {b : Builder} {steps : List Step} (hsteps : steps.map (·.event) = events)
    (hdepth : b.opened.length + heights es ≤ maxDepth) : b.run steps = b.attachAll es := by
  induction h generalizing b steps with
  | nil =>
    obtain rfl := List.map_eq_nil_iff.mp hsteps
    rfl
  | empty ha _ ih =>
    obtain ⟨s, rest, rfl, hs, hrest⟩ := List.map_eq_cons_iff.mp hsteps
    simp only [Element.heights_cons, Element.height_mk, Element.heights_nil] at hdepth
    rw [run, step_empty hs ha (by omega), attachAll]
    cases hb : b.attach _ with
    | error error => rfl
    | ok b' => exact ih hrest (by rw [opened_attach hb]; omega)
  | @tags inside attributes body rest children others ha _ _ ihbody ihrest =>
    obtain ⟨s, more, rfl, hs, hmore⟩ := List.map_eq_cons_iff.mp hsteps
    obtain ⟨inner, behind, rfl, hinner, hbehind⟩ := List.map_eq_append_iff.mp hmore
    obtain ⟨t, after, rfl, ht, hafter⟩ := List.map_eq_cons_iff.mp hbehind
    simp only [Element.heights_cons, Element.height_mk] at hdepth
    -- between its tags the element is open, and takes its children
    have hchildren := ihbody (b := ⟨⟨tagName inside, attributes, []⟩ :: b.opened, b.root⟩) hinner
      (by rw [List.length_cons]; omega)
    rw [attachAll_within] at hchildren
    rw [run_of_step (step_start hs ha (by omega)), run_append_of_run hchildren, run,
      step_stop ht, attachAll]
    simp only [finished, List.append_nil, List.reverse_reverse]
    cases hb : b.attach _ with
    | error error => rfl
    | ok b' => exact ihrest hafter (by rw [opened_attach hb]; omega)

end Builder

/-- Every tree that is not too high is built from its traversal. -/
theorem assemble_of_traversals {steps : List Step} {e : Element}
    (h : Traversals (tagEvents steps) [e]) (hheight : e.height ≤ maxDepth) :
    assemble steps = .ok e := by
  have hevents : (steps.filter (·.event ≠ .other)).map (·.event) = tagEvents steps := by
    rw [tagEvents, List.filter_map]
    rfl
  have hrun := Builder.run_of_traversals h (b := .initial) hevents (by simpa [Builder.initial])
  rw [Builder.run_filter] at hrun
  rw [assemble, hrun]
  rfl

end Markup
end GatewayRecipes
