import GatewayRecipes.Text.Casing
import Mathlib.Tactic.Lemma

/-! Lower case. What is in lower case stays as it is when it is put in lower case again, and no
ASCII punctuation comes of other characters. -/
namespace GatewayRecipes.Text

namespace CaseShift

def lowest (s : CaseShift) : Nat := (s.first + s.offset).toNat

def highest (s : CaseShift) : Nat := (s.last + s.offset).toNat

/-- Whether a shift covers every other code point of its range. -/
def alternates (s : CaseShift) : Bool := Nat.beq s.stride 2 || Nat.beq s.first s.last

/-- Whether no image of one shift is covered by another: their ranges lie apart, or they take turns.
The comparisons are those that the kernel computes with, as this is run on all pairs of shifts. -/
def avoids (s t : CaseShift) : Bool :=
  Nat.blt s.highest t.first ||
    (Nat.blt t.last s.lowest ||
      (s.alternates && (t.alternates && Nat.beq ((s.lowest + t.first) % 2) 1)))

lemma covers_iff {s : CaseShift} {n : Nat} :
    s.covers n = true ↔ s.first ≤ n ∧ n ≤ s.last ∧ (n - s.first) % s.stride = 0 := by
  simp [covers, and_assoc]

/-- What an alternating shift covers has the parity of its first code point. -/
lemma even_of_alternates {s : CaseShift} {n : Nat} (hs : s.alternates = true)
    (hn : s.covers n = true) : (n - s.first) % 2 = 0 := by
  obtain ⟨hfirst, hlast, hstride⟩ := covers_iff.mp hn
  rw [alternates, Bool.or_eq_true, Nat.beq_eq, Nat.beq_eq] at hs
  rcases hs with htwo | hone
  · rwa [htwo] at hstride
  · omega

lemma not_covers_of_avoids {s t : CaseShift} {n : Nat} (h : s.avoids t = true)
    (hpositive : 0 ≤ s.first + s.offset) (hn : s.covers n = true) :
    t.covers (n + s.offset).toNat = false := by
  rw [Bool.eq_false_iff]
  intro ht
  obtain ⟨hfirst, hlast, -⟩ := covers_iff.mp hn
  obtain ⟨tfirst, tlast, -⟩ := covers_iff.mp ht
  simp only [avoids, Bool.or_eq_true, Bool.and_eq_true, Nat.blt_eq, Nat.beq_eq] at h
  rcases h with hbelow | habove | ⟨hs, ht', hodd⟩
  · rw [highest] at hbelow
    omega
  · rw [lowest] at habove
    omega
  · have hsource := even_of_alternates hs hn
    have himage := even_of_alternates ht' ht
    rw [lowest] at hodd
    omega

lemma map_cases (shifts : List CaseShift) (c : Char) :
    (∃ s ∈ shifts, s.covers c.toNat = true ∧ map shifts c = s.apply c) ∨
      (∀ s ∈ shifts, s.covers c.toNat = false) ∧ map shifts c = c := by
  rw [map]
  cases h : shifts.find? (·.covers c.toNat) with
  | some s => exact .inl ⟨s, List.mem_of_find?_eq_some h, by simpa using List.find?_some h, rfl⟩
  | none => exact .inr ⟨by simpa using h, rfl⟩

lemma map_of_uncovered {shifts : List CaseShift} {c : Char}
    (h : ∀ s ∈ shifts, s.covers c.toNat = false) : map shifts c = c := by
  rw [map, List.find?_eq_none.mpr fun s hs => by simp [h s hs]]

/-- A number of no character is replaced by that of the zero character. -/
lemma toNat_ofNat (n : Nat) : (Char.ofNat n).toNat = n ∨ (Char.ofNat n).toNat = 0 := by
  rw [Char.ofNat]
  by_cases hvalid : n.isValidChar
  · exact .inl (by rw [dif_pos hvalid]; rfl)
  · exact .inr (by rw [dif_neg hvalid]; rfl)

lemma toNat_apply (s : CaseShift) (c : Char) :
    (s.apply c).toNat = (c.toNat + s.offset).toNat ∨ (s.apply c).toNat = 0 :=
  toNat_ofNat _

/-- The image of what a shift covers is not covered by a shift that it avoids. -/
lemma not_covers_image {s t : CaseShift} {n : Nat} (havoids : s.avoids t = true)
    (hpositive : 0 ≤ s.first + s.offset) (hfirst : 0 < t.first) (hn : s.covers n = true) :
    t.covers (Char.ofNat (n + s.offset).toNat).toNat = false := by
  rcases toNat_ofNat (n + s.offset).toNat with himage | hzero
  · rw [himage]
    exact not_covers_of_avoids havoids hpositive hn
  · rw [Bool.eq_false_iff, hzero]
    intro h
    exact absurd (covers_iff.mp h).1 (by omega)

end CaseShift

/-- The capital that has two letters as its lower case. -/
def dottedCapital : CaseShift := ⟨0x130, 0x130, 1, 0⟩

lemma lowerShifts_avoid :
    (lowerShifts.all fun s => (dottedCapital :: lowerShifts).all s.avoids) = true := by
  decide +kernel

lemma lowerShifts_above : ∀ s ∈ dottedCapital :: lowerShifts, 0 < s.first ∧
    0x5b < s.first + s.offset := by
  decide +kernel

/-- A character without another lower case. -/
def Lowered (c : Char) : Prop := ∀ s ∈ dottedCapital :: lowerShifts, s.covers c.toNat = false

instance (c : Char) : Decidable (Lowered c) := inferInstanceAs (Decidable (∀ s ∈ _, _))

namespace Lowered
variable {c : Char}

lemma ne_sigma (h : Lowered c) : c ≠ 'Σ' := by
  rintro rfl
  exact absurd h (by decide +kernel)

lemma ne_dotted (h : Lowered c) : c ≠ 'İ' := by
  rintro rfl
  exact absurd h (by decide +kernel)

lemma map_eq (h : Lowered c) : CaseShift.map lowerShifts c = c :=
  CaseShift.map_of_uncovered fun s hs => h s (List.mem_cons_of_mem _ hs)

end Lowered

lemma lowered_map {c : Char} (hc : c ≠ 'İ') : Lowered (CaseShift.map lowerShifts c) := by
  intro t ht
  obtain ⟨s, hs, hcovers, heq⟩ | ⟨huncovered, heq⟩ := CaseShift.map_cases lowerShifts c
  · rw [heq]
    have havoids := List.all_eq_true.mp (List.all_eq_true.mp lowerShifts_avoid s hs) t ht
    have hpositive := (lowerShifts_above s (List.mem_cons_of_mem _ hs)).2
    exact CaseShift.not_covers_image havoids (by omega) (lowerShifts_above t ht).1 hcovers
  · rw [heq]
    rcases List.mem_cons.mp ht with rfl | hmem
    · rw [Bool.eq_false_iff]
      intro h
      obtain ⟨hfirst, hlast, -⟩ := CaseShift.covers_iff.mp h
      have hcode : c.toNat = 'İ'.toNat := Nat.le_antisymm hlast hfirst
      exact hc (by rw [← Char.ofNat_toNat c, hcode, Char.ofNat_toNat])
    · exact huncovered t hmem

lemma lowered_of_mem_lowerBetween {before after : List Char} {c d : Char}
    (h : d ∈ lowerBetween before after c) : Lowered d := by
  rw [lowerBetween] at h
  split at h
  · obtain rfl := List.mem_singleton.mp h
    split
    · decide +kernel
    · decide +kernel
  · next hsigma =>
    split at h
    · have hi : Lowered 'i' := by decide +kernel
      have hdot : Lowered '\u0307' := by decide +kernel
      exact List.forall_mem_cons.mpr ⟨hi, List.forall_mem_singleton.mpr hdot⟩ d h
    · next hdotted =>
      obtain rfl := List.mem_singleton.mp h
      exact lowered_map hdotted

lemma lowered_of_mem_lowerAfter {before cs : List Char} {d : Char}
    (h : d ∈ lowerAfter before cs) : Lowered d := by
  induction cs generalizing before with
  | nil => cases h
  | cons c rest ih =>
    rw [lowerAfter, List.mem_append] at h
    exact h.elim lowered_of_mem_lowerBetween ih

lemma lowerAfter_of_lowered {cs : List Char} (h : ∀ c ∈ cs, Lowered c) (before : List Char) :
    lowerAfter before cs = cs := by
  induction cs generalizing before with
  | nil => rfl
  | cons c rest ih =>
    obtain ⟨hc, hrest⟩ := List.forall_mem_cons.mp h
    rw [lowerAfter, ih hrest, lowerBetween, if_neg hc.ne_sigma, if_neg hc.ne_dotted, hc.map_eq]
    rfl

lemma lowered_of_mem_lower {text : String} {c : Char} (h : c ∈ (lower text).toList) :
    Lowered c := by
  rw [lower, String.toList_ofList] at h
  exact lowered_of_mem_lowerAfter h

/-- A text of characters in lower case is its own lower case. -/
theorem lower_of_lowered {text : String} (h : ∀ c ∈ text.toList, Lowered c) :
    lower text = text := by
  rw [lower, lowerAfter_of_lowered h, String.ofList_toList]

/-! Punctuation. -/

lemma mem_lowerBetween_cases {before after : List Char} {c d : Char}
    (h : d ∈ lowerBetween before after c) : d = c ∨ 0x5b < d.toNat ∨ d.toNat = 0 := by
  rw [lowerBetween] at h
  split at h
  · obtain rfl := List.mem_singleton.mp h
    refine .inr (.inl ?_)
    split
    · decide
    · decide
  · split at h
    · refine .inr (.inl ?_)
      obtain rfl | rfl : d = 'i' ∨ d = '\u0307' := by simpa using h
      · decide
      · decide
    · obtain rfl := List.mem_singleton.mp h
      obtain ⟨s, hs, hcovers, heq⟩ | ⟨-, heq⟩ := CaseShift.map_cases lowerShifts c
      · have hfirst := (CaseShift.covers_iff.mp hcovers).1
        have habove := (lowerShifts_above s (List.mem_cons_of_mem _ hs)).2
        have himage := s.toNat_apply c
        rw [heq]
        omega
      · exact .inl heq

/-- What a text in lower case has of ASCII below its letters stands in the text itself. -/
theorem mem_of_mem_lower {text : String} {d : Char} (hpositive : 0 < d.toNat)
    (hd : d.toNat ≤ 0x5b) (h : d ∈ (lower text).toList) : d ∈ text.toList := by
  suffices hafter : ∀ before cs, d ∈ lowerAfter before cs → d ∈ cs by
    rw [lower, String.toList_ofList] at h
    exact hafter [] _ h
  intro before cs
  induction cs generalizing before with
  | nil => exact id
  | cons c rest ih =>
    intro h
    rcases List.mem_append.mp h with hc | hrest
    · obtain rfl | habove | hzero := mem_lowerBetween_cases hc
      · exact List.mem_cons_self ..
      · omega
      · omega
    · exact List.mem_cons_of_mem c (ih (c :: before) hrest)

/-! What stands in a text, in its lower case. -/

lemma lowerShifts_above_digits : ∀ s ∈ dottedCapital :: lowerShifts, 0x40 < s.first := by
  decide +kernel

lemma lowered_of_isDigit {c : Char} (h : c.isDigit = true) : Lowered c := by
  have hbound : 48 ≤ c.toNat ∧ c.toNat ≤ 57 := Char.isDigit_iff_toNat.mp h
  intro s hs
  rw [Bool.eq_false_iff]
  intro hcovers
  have hfirst := (CaseShift.covers_iff.mp hcovers).1
  have habove := lowerShifts_above_digits s hs
  omega

/-- A character has the same lower case in every text, but for two characters that have none of
their own. -/
lemma map_mem_lower {text : String} {c : Char} (hsigma : c ≠ 'Σ') (hdotted : c ≠ 'İ')
    (h : c ∈ text.toList) : CaseShift.map lowerShifts c ∈ (lower text).toList := by
  suffices hafter : ∀ before cs, c ∈ cs → CaseShift.map lowerShifts c ∈ lowerAfter before cs by
    rw [lower, String.toList_ofList]
    exact hafter [] _ h
  intro before cs
  induction cs generalizing before with
  | nil => exact nofun
  | cons d rest ih =>
    intro hmem
    rw [lowerAfter]
    rcases List.mem_cons.mp hmem with rfl | hrest
    · rw [lowerBetween, if_neg hsigma, if_neg hdotted]
      exact List.mem_append_left _ (List.mem_singleton_self _)
    · exact List.mem_append_right _ (ih (d :: before) hrest)

lemma Lowered.mem_lower {text : String} {c : Char} (hc : Lowered c) (h : c ∈ text.toList) :
    c ∈ (lower text).toList := by
  have hmem := map_mem_lower hc.ne_sigma hc.ne_dotted h
  rwa [hc.map_eq] at hmem

end GatewayRecipes.Text
