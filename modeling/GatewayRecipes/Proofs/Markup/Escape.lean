import GatewayRecipes.Markup.Entity
import Mathlib.Tactic.Lemma

/-! Values survive their written form: the references that stand for markup are replaced by what
they stand for. -/
namespace GatewayRecipes.Markup

section
variable {α : Type} {p : α → Bool} {xs ys : List α}

lemma takeWhile_up_to (hx : ∀ x ∈ xs, p x = true) (hy : ∀ y ∈ ys.head?, p y = false) :
    (xs ++ ys).takeWhile p = xs := by
  rw [List.takeWhile_append_of_pos hx]
  cases ys with
  | nil => simp
  | cons y rest =>
    rw [List.takeWhile_cons_of_neg (by simp [hy y rfl]), List.append_nil]

lemma dropWhile_up_to (hx : ∀ x ∈ xs, p x = true) (hy : ∀ y ∈ ys.head?, p y = false) :
    (xs ++ ys).dropWhile p = ys := by
  rw [List.dropWhile_append_of_pos hx]
  cases ys with
  | nil => rfl
  | cons y rest => rw [List.dropWhile_cons_of_neg (by simp [hy y rfl])]

lemma dropWhile_eq_nil (hx : ∀ x ∈ xs, p x = true) : xs.dropWhile p = [] := by
  rw [← List.append_nil xs]
  exact dropWhile_up_to hx (by simp)

lemma head_cons {y : α} (h : p y = false) (ys : List α) : ∀ x ∈ (y :: ys).head?, p x = false := by
  rintro x ⟨⟩
  exact h

end

lemma bne_of_not_mem {c : Char} {text : List Char} (h : c ∉ text) :
    ∀ x ∈ text, (x != c) = true := by
  intro x hx
  rw [bne_iff_ne]
  rintro rfl
  exact h hx

/-- A character is written as itself, or as a reference by name. -/
lemma escapeChar_cases (c : Char) :
    (escapeChar c = [c] ∧ c ≠ '&' ∧ c ≠ '"') ∨
      ∃ name, escapeChar c = '&' :: (name ++ [';']) ∧ namedEntity? name = some c := by
  unfold escapeChar
  split
  · exact .inr ⟨"lt".toList, rfl, rfl⟩
  · exact .inr ⟨"gt".toList, rfl, rfl⟩
  · exact .inr ⟨"amp".toList, rfl, rfl⟩
  · exact .inr ⟨"apos".toList, rfl, rfl⟩
  · exact .inr ⟨"quot".toList, rfl, rfl⟩
  · next hamp _ hquot => exact .inl ⟨rfl, hamp, hquot⟩

lemma resolve_of_named {name : List Char} {c : Char} (h : namedEntity? name = some c)
    (start : Nat) : resolve start name = .ok c := by
  unfold namedEntity? at h
  split at h <;> cases h <;> rfl

/-- Names of references neither end a reference nor close a quoted value. -/
lemma ne_of_mem_named {name : List Char} {c : Char} (h : namedEntity? name = some c) :
    ∀ x ∈ name, endsName x = false ∧ x ≠ '"' := by
  have hall : name.all (fun x => !endsName x && x != '"') = true := by
    unfold namedEntity? at h
    split at h <;> cases h <;> rfl
  intro x hx
  simpa using List.all_eq_true.mp hall x hx

lemma unescapeFrom_reference {name rest cs : List Char} {c : Char} {total offset : Nat}
    (h : namedEntity? name = some c)
    (hrest : unescapeFrom total (offset + 2 + Text.byteLength name) rest = .ok cs) :
    unescapeFrom total offset ('&' :: (name ++ ';' :: rest)) = .ok (c :: cs) := by
  have hname : ∀ x ∈ name, (!endsName x) = true := fun x hx => by
    simp [(ne_of_mem_named h x hx).1]
  have hend := head_cons (p := (!endsName ·)) (y := ';') rfl rest
  have hdrop := dropWhile_up_to hname hend
  rw [unescapeFrom, takeWhile_up_to hname hend]
  split
  · next rest' hd =>
    obtain rfl : rest = rest' := by simpa [hdrop] using hd
    simp only [resolve_of_named h, hrest]
  · next hd => exact absurd hdrop (hd rest)

lemma unescapeFrom_plain {c : Char} {rest cs : List Char} {total offset : Nat} (h : c ≠ '&')
    (hrest : unescapeFrom total (offset + c.utf8Size) rest = .ok cs) :
    unescapeFrom total offset (c :: rest) = .ok (c :: cs) := by
  rw [unescapeFrom, hrest]
  exact h

lemma unescapeFrom_escape (total offset : Nat) (value : List Char) :
    unescapeFrom total offset (escape value) = .ok value := by
  induction value generalizing offset with
  | nil => rw [escape, List.flatMap_nil, unescapeFrom]
  | cons c rest ih =>
    rw [escape, List.flatMap_cons, ← escape]
    obtain ⟨he, hamp, -⟩ | ⟨name, he, hname⟩ := escapeChar_cases c
    · rw [he]
      exact unescapeFrom_plain hamp (ih _)
    · rw [he, List.cons_append, List.append_assoc]
      exact unescapeFrom_reference hname (ih _)

/-- Replacing references undoes writing them. -/
theorem unescape_escape (value : List Char) : unescape (escape value) = .ok value :=
  unescapeFrom_escape _ 0 value

/-- A written value can stand between double quotes. -/
lemma quote_not_mem_escape (value : List Char) : '"' ∉ escape value := by
  rw [escape, List.mem_flatMap]
  rintro ⟨c, -, hc⟩
  obtain ⟨he, -, hquot⟩ | ⟨name, he, hname⟩ := escapeChar_cases c
  · rw [he, List.mem_singleton] at hc
    exact hquot hc.symm
  · simp only [he, List.mem_cons, List.mem_append, List.not_mem_nil, or_false] at hc
    rcases hc with hc | hc | hc
    · cases hc
    · exact (ne_of_mem_named hname _ hc).2 rfl
    · cases hc

end GatewayRecipes.Markup
