import GatewayRecipes.Element
import Mathlib.Tactic.Lemma

/-! Readings of elements. -/
namespace GatewayRecipes.Element

/-- Induction over a tree: what holds of an element when it holds of its children. -/
@[elab_as_elim]
theorem childInduction {motive : Element → Prop}
    (step : ∀ e : Element, (∀ c ∈ e.children, motive c) → motive e) : ∀ e, motive e
  | ⟨name, attributes, children⟩ =>
    step ⟨name, attributes, children⟩ fun c _ => childInduction step c

def hasChild (e : Element) (name : String) : Bool := e.children.any (·.name == name)

lemma hasChild_iff (e : Element) (name : String) :
    e.hasChild name = true ↔ ∃ c ∈ e.children, c.name = name := by
  simp [hasChild]

lemma not_hasChild_iff (e : Element) (name : String) :
    ¬ e.hasChild name = true ↔ ∀ c ∈ e.children, c.name ≠ name := by
  simp [hasChild]

lemma forall_childrenNamed {e : Element} {name : String} {p : Element → Prop} :
    (∀ c ∈ e.childrenNamed name, p c) ↔ ∀ c ∈ e.children, c.name = name → p c := by
  simp [childrenNamed]

lemma textAttribute?_eq (e : Element) (key : String) :
    e.textAttribute? key = if e.hasText key then some (e.attributeD key) else none := by
  cases ha : e.attribute? key with
  | none => simp [textAttribute?, hasText, ha]
  | some v =>
    cases hv : Text.hasText v with
    | true => simp [textAttribute?, hasText, attributeD, ha, hv, Option.filter]
    | false => simp [textAttribute?, hasText, ha, hv, Option.filter]

lemma textAttribute?_of_hasText {e : Element} {key : String} (h : e.hasText key = true) :
    e.textAttribute? key = some (e.attributeD key) := by
  rw [textAttribute?_eq, if_pos h]

lemma textAttribute?_of_not_hasText {e : Element} {key : String} (h : ¬ e.hasText key = true) :
    e.textAttribute? key = none := by
  rw [textAttribute?_eq, if_neg h]

lemma hasText_of_textAttribute? {e : Element} {key value : String}
    (h : e.textAttribute? key = some value) :
    e.hasText key = true ∧ e.attributeD key = value := by
  rw [textAttribute?_eq] at h
  split at h
  · next ht => exact ⟨ht, Option.some.inj h⟩
  · cases h

lemma hasText_congr {e f : Element} {key : String} (h : e.attribute? key = f.attribute? key) :
    e.hasText key = f.hasText key := by
  rw [hasText, hasText, textAttribute?, textAttribute?, h]

lemma attributeD_congr {e f : Element} {key : String} (h : e.attribute? key = f.attribute? key) :
    e.attributeD key = f.attributeD key := by
  rw [attributeD, attributeD, h]

lemma isEmpty_childrenNamed (e : Element) (name : String) :
    (e.childrenNamed name).isEmpty = !e.hasChild name := by
  cases h : e.hasChild name with
  | true =>
    obtain ⟨c, hc, hn⟩ := List.any_eq_true.mp h
    have hm : c ∈ e.childrenNamed name := List.mem_filter.mpr ⟨hc, hn⟩
    simpa using List.ne_nil_of_mem hm
  | false =>
    have hf : ∀ c ∈ e.children, ¬ (c.name == name) = true := by
      simpa [hasChild] using h
    simpa [childrenNamed, List.filter_eq_nil_iff] using hf

lemma childrenNamed_eq_nil {e : Element} {name : String} (h : e.hasChild name = false) :
    e.childrenNamed name = [] := by
  have hn := e.isEmpty_childrenNamed name
  rw [h] at hn
  exact List.isEmpty_iff.mp hn

lemma childrenNamed_ne_nil {e : Element} {name : String} (h : e.hasChild name = true) :
    e.childrenNamed name ≠ [] := by
  have hn := e.isEmpty_childrenNamed name
  rw [h] at hn
  exact List.isEmpty_eq_false_iff.mp hn

end GatewayRecipes.Element
