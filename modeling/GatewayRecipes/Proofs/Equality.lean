import GatewayRecipes.Proofs.Element
import GatewayRecipes.Proofs.Table
import GatewayRecipes.Recipe.Basic
import Mathlib.Data.List.Forall2
import Mathlib.Data.List.Nodup
import Mathlib.Data.List.Perm.Subperm

/-! Equality of elements and of recipes, in which the order of attributes, properties and map
entries does not count. It is known by look-ups where every key is bound once. -/
namespace GatewayRecipes

namespace Table
variable {α : Type}

lemma mem_of_get? {t : Table α} {key : String} {v : α} (h : t.get? key = some v) :
    (key, v) ∈ t := by
  induction t with
  | nil => simp at h
  | cons e rest ih =>
    obtain ⟨k, w⟩ := e
    by_cases hk : k = key
    · subst hk
      obtain rfl : w = v := by simpa [get?] using h
      exact List.mem_cons_self ..
    · rw [get?, if_neg hk] at h
      exact List.mem_cons_of_mem _ (ih h)

/-- Where no key is repeated, look-ups give all entries. -/
theorem Distinct.get?_eq_some_iff {t : Table α} (h : t.Distinct) {key : String} {v : α} :
    t.get? key = some v ↔ (key, v) ∈ t := by
  refine ⟨mem_of_get?, fun hm => ?_⟩
  induction t with
  | nil => simp at hm
  | cons e rest ih =>
    obtain ⟨k, w⟩ := e
    obtain ⟨hn, hr⟩ := List.nodup_cons.mp h
    rcases List.mem_cons.mp hm with he | hm
    · obtain ⟨rfl, rfl⟩ := Prod.mk.inj he
      simp [get?]
    · have hk : k ≠ key := by
        rintro rfl
        exact hn (List.mem_map.mpr ⟨_, hm, rfl⟩)
      rw [get?, if_neg hk]
      exact ih hr hm

/-- A table without repeated keys that is found, entry by entry, in another one of its length has
the entries of that in some order. -/
theorem Distinct.perm_of_get? {t u : Table α} (h : t.Distinct) (hlen : t.length = u.length)
    (hsub : ∀ e ∈ t, u.get? e.1 = some e.2) : List.Perm t u := by
  have hsubset : t ⊆ u := fun e he => mem_of_get? (hsub e he)
  have hnodup : t.Nodup := List.Nodup.of_map _ h
  exact (hnodup.subperm hsubset).perm_of_length_le (Nat.le_of_eq hlen.symm)

lemma Distinct.of_perm {t u : Table α} (h : t.Distinct) (hp : List.Perm t u) : u.Distinct :=
  (hp.map _).nodup_iff.mp h

/-- Order does not count for look-ups. -/
theorem Distinct.get?_of_perm {t u : Table α} (h : t.Distinct) (hp : List.Perm t u)
    (key : String) : t.get? key = u.get? key := by
  ext v
  rw [h.get?_eq_some_iff, (h.of_perm hp).get?_eq_some_iff, hp.mem_iff]

lemma keys_perm_lastWins {a b : List (String × α)} (hp : a.Perm b) :
    (lastWins a).keys.Perm (lastWins b).keys := by
  rw [← ofList_eq_lastWins, ← ofList_eq_lastWins,
    List.perm_ext_iff_of_nodup (distinct_ofList a) (distinct_ofList b)]
  intro key
  rw [keys_ofList, keys_ofList, List.mem_eraseDups, List.mem_eraseDups, (hp.map _).mem_iff]

end Table

namespace Element

/-- No attribute is repeated, neither on an element nor on any below it. -/
inductive Distinct : Element → Prop
  | intro {e : Element} (attributes : e.attributes.Distinct)
      (children : ∀ c ∈ e.children, c.Distinct) : e.Distinct

lemma allSame_iff (as bs : List Element) :
    allSame as bs = true ↔ List.Forall₂ (fun a b => a.sameAs b = true) as bs := by
  induction as generalizing bs with
  | nil => cases bs <;> simp [allSame]
  | cons a as ih => cases bs <;> simp [allSame, ih]

lemma sameAs_iff (e f : Element) :
    e.sameAs f = true ↔
      e.name = f.name ∧ e.attributes.length = f.attributes.length ∧
        (∀ a ∈ e.attributes, f.attributes.get? a.1 = some a.2) ∧
        List.Forall₂ (fun c d => c.sameAs d = true) e.children f.children := by
  cases e
  cases f
  simp [sameAs, allSame_iff, and_assoc]

/-- Elements with the same name and attributes in some order, whose children are equal one by
one. -/
structure Alike (e f : Element) : Prop where
  name : e.name = f.name
  attributes : List.Perm e.attributes f.attributes
  attribute? : ∀ key, e.attribute? key = f.attribute? key
  children : List.Forall₂ (fun c d => c.Distinct ∧ c.sameAs d = true) e.children f.children

theorem Distinct.alike {e f : Element} (h : e.Distinct) (same : e.sameAs f = true) :
    e.Alike f := by
  obtain ⟨hattributes, hchildren⟩ := h
  obtain ⟨hname, hlen, hget, hsame⟩ := (sameAs_iff e f).mp same
  have hp := hattributes.perm_of_get? hlen hget
  refine ⟨hname, hp, hattributes.get?_of_perm hp, ?_⟩
  exact (List.forall₂_and_left _ _).mpr ⟨hchildren, hsame⟩

namespace Alike
variable {e f : Element}

lemma hasText_eq (h : e.Alike f) (key : String) : e.hasText key = f.hasText key :=
  hasText_congr (h.attribute? key)

lemma attributeD_eq (h : e.Alike f) (key : String) : e.attributeD key = f.attributeD key :=
  attributeD_congr (h.attribute? key)

lemma childrenNamed (h : e.Alike f) (name : String) :
    List.Forall₂ Alike (e.childrenNamed name) (f.childrenNamed name) := by
  have hchildren : List.Forall₂ Alike e.children f.children :=
    h.children.imp fun c d hcd => hcd.1.alike hcd.2
  refine List.rel_filter ?_ hchildren
  intro c d hcd
  simp only [hcd.name]

lemma hasChild_eq (h : e.Alike f) (name : String) : e.hasChild name = f.hasChild name := by
  have hc := h.childrenNamed name
  have hempty : (e.childrenNamed name).isEmpty = (f.childrenNamed name).isEmpty := by
    generalize e.childrenNamed name = as, f.childrenNamed name = bs at hc
    cases hc <;> rfl
  rwa [isEmpty_childrenNamed, isEmpty_childrenNamed, Bool.not_inj_iff] at hempty

/-- What is equal of children one by one is equal of all of them. -/
lemma map_eq {β : Type} {g : Element → β} (hg : ∀ c d : Element, c.Alike d → g c = g d)
    {as bs : List Element} (h : List.Forall₂ Alike as bs) : as.map g = bs.map g := by
  have hm : List.Forall₂ Eq (as.map g) (bs.map g) := List.rel_map hg h
  rwa [List.forall₂_eq_eq_eq] at hm

lemma flatMap_eq {β : Type} {g : Element → List β}
    (hg : ∀ c d : Element, c.Alike d → g c = g d) {as bs : List Element}
    (h : List.Forall₂ Alike as bs) : as.flatMap g = bs.flatMap g := by
  rw [List.flatMap_def, List.flatMap_def, map_eq hg h]

end Alike
end Element

mutual

/-- No name is bound twice in a value, at any depth. -/
inductive PropertyValue.Distinct : PropertyValue → Prop
  | value (text : String) : PropertyValue.Distinct (.value text)
  | reference (target : String) : PropertyValue.Distinct (.reference target)
  | expression (e : Expression) : PropertyValue.Distinct (.expression e)
  | recipe {r : Recipe} (h : Recipe.Distinct r) : PropertyValue.Distinct (.recipe r)
  | map {entries : List (String × PropertyValue)} (names : Table.Distinct entries)
      (values : ∀ e ∈ entries, PropertyValue.Distinct e.2) : PropertyValue.Distinct (.map entries)

/-- No name is bound twice in a recipe, at any depth. -/
inductive Recipe.Distinct : Recipe → Prop
  | intro {r : Recipe} (names : Table.Distinct r.properties)
      (values : ∀ e ∈ r.properties, PropertyValue.Distinct e.2) : Recipe.Distinct r

end

lemma PropertyValue.within_iff (entries table : List (String × PropertyValue)) :
    PropertyValue.within entries table = true ↔
      ∀ e ∈ entries, ∃ w, Table.get? table e.1 = some w ∧ e.2.sameAs w = true := by
  induction entries with
  | nil => simp [within]
  | cons e rest ih =>
    obtain ⟨k, v⟩ := e
    cases h : Table.get? table k <;> simp [within, ih, h]

lemma Recipe.sameAs_iff (r s : Recipe) :
    r.sameAs s = true ↔
      r.kind = s.kind ∧ r.properties.length = s.properties.length ∧
        ∀ e ∈ r.properties, ∃ w, s.get? e.1 = some w ∧ e.2.sameAs w = true := by
  cases r
  cases s
  simp [Recipe.sameAs, PropertyValue.within_iff, Recipe.get?, and_assoc]

lemma PropertyValue.within_self {entries : List (String × PropertyValue)}
    (names : Table.Distinct entries) (values : ∀ e ∈ entries, e.2.sameAs e.2 = true) :
    PropertyValue.within entries entries = true := by
  rw [within_iff]
  exact fun e he => ⟨e.2, names.get?_eq_some_iff.mpr he, values e he⟩

mutual

theorem PropertyValue.Distinct.sameAs_self : ∀ {v : PropertyValue}, v.Distinct → v.sameAs v = true
  | _, .value _ | _, .reference _ | _, .expression _ => by simp [PropertyValue.sameAs]
  | _, .recipe h => by
    rw [PropertyValue.sameAs]
    exact Recipe.Distinct.sameAs_self h
  | _, .map names values => by
    rw [PropertyValue.sameAs, beq_self_eq_true, Bool.true_and]
    exact PropertyValue.within_self names fun e he => (values e he).sameAs_self

theorem Recipe.Distinct.sameAs_self : ∀ {r : Recipe}, r.Distinct → r.sameAs r = true
  | ⟨_, _⟩, .intro names values => by
    rw [Recipe.sameAs, beq_self_eq_true, beq_self_eq_true, Bool.true_and, Bool.true_and]
    exact PropertyValue.within_self names fun e he => (values e he).sameAs_self

end

end GatewayRecipes
