import GatewayRecipes.Proofs.Text.Casing

/-! Upper case of single characters. The upper case of a character begins with a capital, which is
its own upper case, and has a hyphen only if the character is one. -/
namespace GatewayRecipes.Text

def CaseShift.point (n : Nat) : CaseShift := ⟨n, n, 1, 0⟩

/-- All that has an upper case other than itself. -/
def raisedShifts : List CaseShift := upperShifts ++ upperExpansions.map fun e => .point e.1

/-- What an upper case of several characters begins with. -/
def expansionHeads : List CaseShift := upperExpansions.filterMap fun e => e.2.head?.map .point

lemma upperShifts_avoid : (upperShifts.all fun s => raisedShifts.all s.avoids) = true := by
  decide +kernel

lemma expansionHeads_avoid : (expansionHeads.all fun s => raisedShifts.all s.avoids) = true := by
  decide +kernel

lemma upperShifts_above : ∀ s ∈ upperShifts, 0x2d < s.first + s.offset := by
  decide +kernel

lemma raisedShifts_first : ∀ s ∈ raisedShifts, 0 < s.first := by
  decide +kernel

lemma upperExpansions_above :
    (upperExpansions.all fun e => !e.2.isEmpty && e.2.all (Nat.blt 0x2d)) = true := by
  decide +kernel

lemma CaseShift.covers_point (n : Nat) : (point n).covers n = true :=
  covers_iff.mpr ⟨Nat.le_refl n, Nat.le_refl n, Nat.mod_one _⟩

/-- A character without another upper case. -/
def Capital (c : Char) : Prop := ∀ s ∈ raisedShifts, s.covers c.toNat = false

lemma lookup_upperExpansions {c : Char} {image : List Nat}
    (h : upperExpansions.lookup c.toNat = some image) : (c.toNat, image) ∈ upperExpansions := by
  obtain ⟨before, after, hsplit, -⟩ := List.lookup_eq_some_iff.mp h
  rw [hsplit]
  exact List.mem_append_right before (List.mem_cons_self ..)

/-- The upper case of a capital is the capital. -/
lemma Capital.upper_eq {c : Char} (h : Capital c) : upper c = [c] := by
  have hsingle : upperExpansions.lookup c.toNat = none := by
    rw [List.lookup_eq_none_iff]
    intro e he
    have hpoint := h (.point e.1) (List.mem_append_right _ (List.mem_map.mpr ⟨e, he, rfl⟩))
    rw [bne_iff_ne]
    intro hcode
    rw [hcode, CaseShift.covers_point] at hpoint
    cases hpoint
  rw [upper, hsingle, CaseShift.map_of_uncovered fun s hs => h s (List.mem_append_left _ hs)]

lemma capital_of_head {d : Nat} {more : List Nat} {n : Nat} (h : (n, d :: more) ∈ upperExpansions) :
    Capital (Char.ofNat d) := by
  intro t ht
  have hpoint : CaseShift.point d ∈ expansionHeads := List.mem_filterMap.mpr ⟨_, h, rfl⟩
  have havoids := List.all_eq_true.mp (List.all_eq_true.mp expansionHeads_avoid _ hpoint) t ht
  exact CaseShift.not_covers_image havoids (by simp [CaseShift.point]) (raisedShifts_first t ht)
    (CaseShift.covers_point d)

lemma capital_map {c : Char} (hsingle : upperExpansions.lookup c.toNat = none) :
    Capital (CaseShift.map upperShifts c) := by
  intro t ht
  obtain ⟨s, hs, hcovers, heq⟩ | ⟨huncovered, heq⟩ := CaseShift.map_cases upperShifts c
  · have havoids := List.all_eq_true.mp (List.all_eq_true.mp upperShifts_avoid s hs) t ht
    have habove := upperShifts_above s hs
    rw [heq]
    exact CaseShift.not_covers_image havoids (by omega) (raisedShifts_first t ht) hcovers
  · rw [heq]
    rcases List.mem_append.mp ht with hshift | hpoint
    · exact huncovered t hshift
    · obtain ⟨e, he, rfl⟩ := List.mem_map.mp hpoint
      have hne := List.lookup_eq_none_iff.mp hsingle e he
      rw [Bool.eq_false_iff]
      intro h
      obtain ⟨hfirst, hlast, -⟩ := CaseShift.covers_iff.mp h
      exact bne_iff_ne.mp hne (Nat.le_antisymm hlast hfirst)

/-- The upper case of a character begins with a capital. -/
theorem exists_cons_upper (c : Char) : ∃ d more, upper c = d :: more ∧ Capital d := by
  rw [upper]
  cases h : upperExpansions.lookup c.toNat with
  | none => exact ⟨_, [], rfl, capital_map h⟩
  | some image =>
    have hmem := lookup_upperExpansions h
    have hnonempty := (Bool.and_eq_true_iff.mp (List.all_eq_true.mp upperExpansions_above _ hmem)).1
    cases image with
    | nil => cases hnonempty
    | cons d more => exact ⟨_, _, rfl, capital_of_head hmem⟩

lemma ofNat_ne_hyphen {n : Nat} (h : 0x2d < n) : Char.ofNat n ≠ '-' := by
  intro heq
  have hcode : (Char.ofNat n).toNat = 0x2d := by rw [heq]; rfl
  rcases CaseShift.toNat_ofNat n with hn | hzero
  · omega
  · omega

/-- No upper case of other characters has a hyphen. -/
theorem hyphen_not_mem_upper {c : Char} (hc : c ≠ '-') : '-' ∉ upper c := by
  rw [upper]
  cases h : upperExpansions.lookup c.toNat with
  | none =>
    rw [List.mem_singleton]
    obtain ⟨s, hs, hcovers, heq⟩ | ⟨-, heq⟩ := CaseShift.map_cases upperShifts c
    · have hfirst := (CaseShift.covers_iff.mp hcovers).1
      have habove := upperShifts_above s hs
      rw [heq]
      exact (ofNat_ne_hyphen (by omega)).symm
    · rw [heq]
      exact hc.symm
  | some image =>
    have habove := List.all_eq_true.mp upperExpansions_above _ (lookup_upperExpansions h)
    rw [Bool.and_eq_true, List.all_eq_true] at habove
    rintro hmem
    obtain ⟨n, hn, heq⟩ := List.mem_map.mp hmem
    exact ofNat_ne_hyphen (Nat.blt_eq.mp (habove.2 n hn)) heq

/-! Texts. -/

def raised : List Char → List Char
  | [] => []
  | c :: rest => upper c ++ rest

@[simp] lemma raised_nil : raised [] = [] := rfl

@[simp] lemma raised_cons (c : Char) (rest : List Char) :
    raised (c :: rest) = upper c ++ rest := rfl

/-- A text stays as it is when it is raised again. -/
lemma raised_raised (cs : List Char) : raised (raised cs) = raised cs := by
  cases cs with
  | nil => rfl
  | cons c rest =>
    obtain ⟨d, more, hc, hd⟩ := exists_cons_upper c
    rw [raised_cons, hc, List.cons_append, raised_cons, hd.upper_eq]
    rfl

end GatewayRecipes.Text
