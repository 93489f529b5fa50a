import GatewayRecipes.Proofs.Element
import Mathlib.Data.List.Infix

/-! The elements of a document in their order, each with the way that leads to it from the root.
Elements that are equal as trees are told apart by their places. -/
namespace GatewayRecipes

/-- An element in a document. Its ancestors come with the place of the child that leads on to the
element, the parent first. -/
structure Occurrence where
  element : Element
  path : List (Element × Nat)

namespace Occurrence

def parent? (o : Occurrence) : Option Element := o.path.head?.map (·.1)

def index (o : Occurrence) : Nat := (o.path.head?.map (·.2)).getD 0

def address (o : Occurrence) : List Nat := o.path.map (·.2)

end Occurrence

namespace Element

mutual

/-- An element and all below it, each before those below it. -/
def occurrencesFrom (path : List (Element × Nat)) : Element → List Occurrence
  | ⟨name, attributes, children⟩ =>
    let e : Element := ⟨name, attributes, children⟩
    ⟨e, path⟩ :: occurrencesBelow e path 0 children

/-- Some children of an element with all below them, where the first of these children has a given
place. -/
def occurrencesBelow (e : Element) (path : List (Element × Nat)) (index : Nat) :
    List Element → List Occurrence
  | [] => []
  | child :: rest =>
    occurrencesFrom ((e, index) :: path) child ++ occurrencesBelow e path (index + 1) rest

end

/-- All elements of a document in the order of their start tags. -/
def occurrences (root : Element) : List Occurrence := root.occurrencesFrom []

lemma occurrencesFrom_eq (e : Element) (path : List (Element × Nat)) :
    e.occurrencesFrom path = ⟨e, path⟩ :: e.occurrencesBelow path 0 e.children := by
  cases e
  rfl

lemma mem_occurrencesBelow {e : Element} {path : List (Element × Nat)} {i : Nat}
    {children : List Element} {o : Occurrence} (h : o ∈ e.occurrencesBelow path i children) :
    ∃ (k : Nat) (c : Element), children[k]? = some c ∧
      o ∈ c.occurrencesFrom ((e, i + k) :: path) := by
  induction children generalizing i with
  | nil => simp [occurrencesBelow] at h
  | cons child rest ih =>
    rw [occurrencesBelow, List.mem_append] at h
    rcases h with h | h
    · exact ⟨0, child, rfl, h⟩
    · obtain ⟨k, c, hc, ho⟩ := ih h
      refine ⟨k + 1, c, hc, ?_⟩
      rwa [show i + (k + 1) = i + 1 + k by omega]

lemma occurrencesFrom_subset_below {e : Element} {path : List (Element × Nat)} {i k : Nat}
    {children : List Element} {c : Element} (hc : children[k]? = some c) :
    c.occurrencesFrom ((e, i + k) :: path) ⊆ e.occurrencesBelow path i children := by
  induction children generalizing i k with
  | nil => cases hc
  | cons child rest ih =>
    intro o ho
    rw [occurrencesBelow, List.mem_append]
    cases k with
    | zero =>
      obtain rfl : child = c := by simpa using hc
      exact .inl ho
    | succ k =>
      refine .inr (ih (i := i + 1) (k := k) (by simpa using hc) ?_)
      rwa [show i + 1 + k = i + (k + 1) by omega]

/-- Ways to elements below go on from the way to the element. -/
lemma path_suffix {e : Element} {path : List (Element × Nat)} {o : Occurrence}
    (h : o ∈ e.occurrencesFrom path) : path <:+ o.path := by
  induction e using childInduction generalizing path with
  | step e ih =>
    rw [occurrencesFrom_eq, List.mem_cons] at h
    rcases h with rfl | h
    · exact List.suffix_refl path
    · obtain ⟨k, c, hc, ho⟩ := mem_occurrencesBelow h
      have hs := ih c (List.mem_of_getElem? hc) ho
      exact (List.suffix_cons (e, 0 + k) path).trans hs

/-- An element that stands below another one has it among its ancestors. -/
lemma mem_path_of_below {e : Element} {path : List (Element × Nat)} {i : Nat}
    {children : List Element} {o : Occurrence} (h : o ∈ e.occurrencesBelow path i children) :
    ∃ k, (e, k) ∈ o.path := by
  obtain ⟨k, c, -, ho⟩ := mem_occurrencesBelow h
  exact ⟨i + k, (path_suffix ho).subset (List.mem_cons_self ..)⟩

/-- What stands on the way to an element, behind where it is looked for, is found there too. -/
lemma exists_of_mem_path {e : Element} {path : List (Element × Nat)} {o : Occurrence}
    (h : o ∈ e.occurrencesFrom path) {a : Element × Nat} (ha : a ∈ o.path) :
    a ∈ path ∨ ∃ q ∈ e.occurrencesFrom path, q.element = a.1 := by
  induction e using childInduction generalizing path with
  | step e ih =>
    have he : (⟨e, path⟩ : Occurrence) ∈ e.occurrencesFrom path := by
      rw [occurrencesFrom_eq]
      exact List.mem_cons_self ..
    rw [occurrencesFrom_eq, List.mem_cons] at h
    rcases h with rfl | h
    · exact .inl ha
    · obtain ⟨k, c, hc, ho⟩ := mem_occurrencesBelow h
      rcases ih c (List.mem_of_getElem? hc) ho with hm | ⟨q, hq, hqa⟩
      · rcases List.mem_cons.mp hm with rfl | hm
        · exact .inr ⟨⟨e, path⟩, he, rfl⟩
        · exact .inl hm
      · refine .inr ⟨q, ?_, hqa⟩
        rw [occurrencesFrom_eq]
        exact List.mem_cons_of_mem _ (occurrencesFrom_subset_below hc hq)

/-- The parent of an element of a document is one too. -/
theorem parent_mem {root : Element} {o : Occurrence} (h : o ∈ root.occurrences) {p : Element}
    (hp : o.parent? = some p) : ∃ q ∈ root.occurrences, q.element = p := by
  obtain ⟨⟨q, k⟩, hq, rfl⟩ := Option.map_eq_some_iff.mp hp
  rcases exists_of_mem_path h (List.mem_of_head? hq) with hm | hm
  · exact absurd hm List.not_mem_nil
  · exact hm

/-- The last step to an element leads to it if the way to where it is looked for does. -/
lemma getElem?_of_mem_occurrencesFrom {e : Element} {path : List (Element × Nat)}
    (hpath : ∀ p k, path.head? = some (p, k) → p.children[k]? = some e) {o : Occurrence}
    (h : o ∈ e.occurrencesFrom path) {p : Element} {k : Nat} (ho : o.path.head? = some (p, k)) :
    p.children[k]? = some o.element := by
  induction e using childInduction generalizing path with
  | step e ih =>
    rw [occurrencesFrom_eq, List.mem_cons] at h
    rcases h with rfl | h
    · exact hpath p k ho
    · obtain ⟨i, c, hc, hm⟩ := mem_occurrencesBelow h
      refine ih c (List.mem_of_getElem? hc) ?_ hm
      intro q j hj
      obtain ⟨rfl, rfl⟩ : e = q ∧ 0 + i = j := by simpa using hj
      rwa [Nat.zero_add]

/-- An element stands among the children of its parent at its index. -/
theorem children_index {root : Element} {o : Occurrence} (h : o ∈ root.occurrences)
    {p : Element} (hp : o.parent? = some p) : p.children[o.index]? = some o.element := by
  obtain ⟨⟨q, k⟩, hq, rfl⟩ := Option.map_eq_some_iff.mp hp
  have hk := getElem?_of_mem_occurrencesFrom (by simp) h hq
  simpa [Occurrence.index, hq] using hk

lemma address_suffix {e : Element} {path : List (Element × Nat)} {o : Occurrence}
    (h : o ∈ e.occurrencesFrom path) : path.map (·.2) <:+ o.address :=
  (path_suffix h).map (·.2)

/-- Below different children, addresses differ. -/
lemma address_ne {e c d : Element} {path : List (Element × Nat)} {i j : Nat} (hij : i ≠ j)
    {o q : Occurrence} (ho : o ∈ c.occurrencesFrom ((e, i) :: path))
    (hq : q ∈ d.occurrencesFrom ((e, j) :: path)) : o.address ≠ q.address := by
  intro heq
  have hi := address_suffix ho
  have hj := address_suffix hq
  rw [← heq] at hj
  have hs := List.suffix_of_suffix_length_le hi hj (by simp)
  have hl := hs.eq_of_length (by simp)
  simp only [List.map_cons, List.cons.injEq] at hl
  exact hij hl.1

lemma nodup_below {e : Element} {path : List (Element × Nat)} {children : List Element}
    (h : ∀ c ∈ children, ∀ p : List (Element × Nat),
      ((c.occurrencesFrom p).map Occurrence.address).Nodup) (i : Nat) :
    ((e.occurrencesBelow path i children).map Occurrence.address).Nodup := by
  induction children generalizing i with
  | nil => simp [occurrencesBelow]
  | cons child rest ih =>
    rw [occurrencesBelow, List.map_append, List.nodup_append]
    refine ⟨h child (by simp) _, ih (fun c hc => h c (by simp [hc])) (i + 1), ?_⟩
    intro a ha b hb
    obtain ⟨o, ho, rfl⟩ := List.mem_map.mp ha
    obtain ⟨q, hq, rfl⟩ := List.mem_map.mp hb
    obtain ⟨k, d, -, hd⟩ := mem_occurrencesBelow hq
    exact address_ne (by omega) ho hd

lemma nodup_from (e : Element) (path : List (Element × Nat)) :
    ((e.occurrencesFrom path).map Occurrence.address).Nodup := by
  induction e using childInduction generalizing path with
  | step e ih =>
    rw [occurrencesFrom_eq, List.map_cons, List.nodup_cons]
    refine ⟨?_, nodup_below ih 0⟩
    -- Below the element there is one place more on the way.
    intro hm
    obtain ⟨o, ho, heq⟩ := List.mem_map.mp hm
    obtain ⟨k, c, -, hc⟩ := mem_occurrencesBelow ho
    have hlen := (address_suffix hc).length_le
    rw [heq] at hlen
    simp only [Occurrence.address, List.map_cons, List.length_cons, List.length_map] at hlen
    omega

/-- No place of a document is passed twice. -/
theorem nodup_addresses (root : Element) : (root.occurrences.map Occurrence.address).Nodup :=
  root.nodup_from []

end Element
end GatewayRecipes
