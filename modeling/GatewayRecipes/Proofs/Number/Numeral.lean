import GatewayRecipes.Number.Integer
import GatewayRecipes.Proofs.Markup.Escape
import Mathlib

/-! How numbers are written: integers, decimals, and the words for what has no digits. The readers
of numbers accept these texts and no others. -/
namespace GatewayRecipes.Number

def IsDigits (text : List Char) : Prop := ∀ c ∈ text, c.isDigit = true

/-- A sign or none. Only a minus makes a number negative. -/
inductive WritesSign : (negative : Bool) → List Char → Prop
  | none : WritesSign false []
  | plus : WritesSign false ['+']
  | minus : WritesSign true ['-']

def withSign (negative : Bool) (n : Nat) : Int := if negative then -(n : Int) else n

/-- An integer: a sign or none, and digits, of which there may be more than are needed. -/
inductive WritesInteger : Int → List Char → Prop
  | mk {negative : Bool} {sign digits : List Char} (signed : WritesSign negative sign)
      (all : IsDigits digits) (nonempty : digits ≠ []) :
      WritesInteger (withSign negative (ofDigits digits)) (sign ++ digits)

/-- The digits behind a point, or nothing. -/
inductive WritesFraction : (digits : List Char) → List Char → Prop
  | none : WritesFraction [] []
  | point {digits : List Char} (all : IsDigits digits) : WritesFraction digits ('.' :: digits)

/-- An exponent of ten behind its letter, or nothing. -/
inductive WritesExponent : Int → List Char → Prop
  | none : WritesExponent 0 []
  | mark {n : Int} {c : Char} {text : List Char} (letter : c = 'e' ∨ c = 'E')
      (exponent : WritesInteger n text) : WritesExponent n (c :: text)

/-- A decimal: a sign or none, digits on at least one side of a point, or without one, and an
exponent of ten or none. -/
inductive WritesDecimal : Decimal → List Char → Prop
  | mk {d : Decimal} {sign point exponent : List Char} (signed : WritesSign d.negative sign)
      (whole : IsDigits d.whole) (fraction : WritesFraction d.fraction point)
      (nonempty : d.whole ++ d.fraction ≠ []) (scale : WritesExponent d.exponent exponent) :
      WritesDecimal d (sign ++ (d.whole ++ (point ++ exponent)))

/-- Whether a text is a word, in any case of its letters. -/
def IsWord (text : List Char) (word : String) : Prop :=
  String.ofList (text.map Char.toLower) = word

/-- The words for infinity, behind a sign or none. -/
inductive WritesInfinity (negative : Bool) : List Char → Prop
  | mk {sign text : List Char} (signed : WritesSign negative sign)
      (word : IsWord text "inf" ∨ IsWord text "infinity") : WritesInfinity negative (sign ++ text)

/-- The word for what is not a number. It may have a sign. -/
inductive WritesNan : List Char → Prop
  | mk {negative : Bool} {sign text : List Char} (signed : WritesSign negative sign)
      (word : IsWord text "nan") : WritesNan (sign ++ text)

/-! Signs. -/

lemma writesSign_splitSign (text : List Char) :
    ∃ sign, WritesSign (splitSign text).1 sign ∧ text = sign ++ (splitSign text).2 := by
  unfold splitSign
  split
  · exact ⟨_, .minus, rfl⟩
  · exact ⟨_, .plus, rfl⟩
  · exact ⟨_, .none, rfl⟩

lemma splitSign_append {negative : Bool} {sign rest : List Char} (h : WritesSign negative sign)
    (hrest : ∀ c ∈ rest.head?, c ≠ '-' ∧ c ≠ '+') :
    splitSign (sign ++ rest) = (negative, rest) := by
  cases h with
  | none =>
    rw [List.nil_append]
    unfold splitSign
    split
    · exact absurd rfl (hrest '-' rfl).1
    · exact absurd rfl (hrest '+' rfl).2
    · rfl
  | plus => rfl
  | minus => rfl

lemma isDigit_ne_sign {c : Char} (h : c.isDigit = true) : c ≠ '-' ∧ c ≠ '+' := by
  constructor
  · rintro rfl
    cases h
  · rintro rfl
    cases h

/-! Integers. -/

/-- Letters stand for ten and more. -/
lemma letter_of_ten_le {low c : Char} (h : low ≤ c) (start : Nat) (hlow : start + 10 ≤ low.toNat) :
    10 ≤ c.toNat - start := by
  have hc : low.toNat ≤ c.toNat := h
  omega

lemma digitIn?_ten (c : Char) : digitIn? 10 c = digit? c := by
  rw [digitIn?, digit?]
  by_cases hc : c.isDigit = true
  · have hbound : 48 ≤ c.toNat ∧ c.toNat ≤ 57 := Char.isDigit_iff_toNat.mp hc
    have hten : c.toNat - 48 < 10 := by omega
    simp [hc, hten]
  · by_cases hsmall : 'a' ≤ c ∧ c ≤ 'f'
    · simpa [hc, hsmall] using letter_of_ten_le hsmall.1 87 (by decide)
    · by_cases hcapital : 'A' ≤ c ∧ c ≤ 'F'
      · simpa [hc, hsmall, hcapital] using letter_of_ten_le hcapital.1 55 (by decide)
      · simp [hc, hsmall, hcapital]

lemma foldlM_digitIn? (value : Nat) (digits : List Char) :
    digits.foldlM (fun n c => (digitIn? 10 c).map (n * 10 + ·)) value =
      if digits.all Char.isDigit then some (digitsFrom value digits) else none := by
  induction digits generalizing value with
  | nil => rfl
  | cons c rest ih =>
    rw [List.foldlM_cons, digitIn?_ten, digit?, List.all_cons]
    cases hc : c.isDigit with
    | true => exact ih (value * 10 + (c.toNat - 48))
    | false => rfl

lemma natural?_ten (digits : List Char) :
    natural? 10 digits =
      if digits.isEmpty || !digits.all Char.isDigit then none else some (ofDigits digits) := by
  cases digits with
  | nil => rfl
  | cons c rest =>
    rw [natural?, foldlM_digitIn?]
    · cases (c :: rest).all Char.isDigit <;> rfl
    · exact nofun

lemma natural?_ten_eq_some_iff {digits : List Char} {n : Nat} :
    natural? 10 digits = some n ↔ IsDigits digits ∧ digits ≠ [] ∧ ofDigits digits = n := by
  rw [natural?_ten, Option.ite_none_left_eq_some, Bool.or_eq_true, not_or, List.isEmpty_iff,
    Bool.not_eq_true', Bool.not_eq_false, List.all_eq_true, Option.some_inj]
  exact ⟨fun ⟨⟨hsome, hall⟩, hn⟩ => ⟨hall, hsome, hn⟩, fun ⟨hall, hsome, hn⟩ => ⟨⟨hsome, hall⟩, hn⟩⟩

/-- A sign stands in front of digits. -/
lemma signed?_eq (base : Nat) (text : List Char) :
    signed? base text =
      (natural? base (splitSign text).2).map (withSign (splitSign text).1) := by
  rcases hsplit : splitSign text with ⟨negative, digits⟩
  rw [signed?, hsplit]
  cases negative with
  | true =>
    simp only
    cases natural? base digits <;> rfl
  | false =>
    simp only
    cases natural? base digits <;> rfl

theorem signed?_ten_eq_some_iff {text : List Char} {n : Int} :
    signed? 10 text = some n ↔ WritesInteger n text := by
  rw [signed?_eq, Option.map_eq_some_iff]
  constructor
  · rintro ⟨size, hsize, rfl⟩
    obtain ⟨sign, hsign, htext⟩ := writesSign_splitSign text
    obtain ⟨hall, hsome, rfl⟩ := natural?_ten_eq_some_iff.mp hsize
    have hwritten := WritesInteger.mk hsign hall hsome
    rwa [← htext] at hwritten
  · rintro ⟨hsign, hall, hsome⟩
    rw [splitSign_append hsign fun c hc => isDigit_ne_sign (hall c (List.mem_of_mem_head? hc))]
    exact ⟨_, natural?_ten_eq_some_iff.mpr ⟨hall, hsome, rfl⟩, rfl⟩

/-! Decimals. -/

lemma exponent?_cons {c : Char} (h : c = 'e' ∨ c = 'E') (rest : List Char) :
    exponent? (c :: rest) = signed? 10 rest := by
  rw [exponent?, if_pos h, signed?_eq]
  rcases splitSign rest with ⟨negative, digits⟩
  simp only
  rw [natural?_ten]
  split
  · rfl
  · rfl

theorem exponent?_eq_some_iff {text : List Char} {n : Int} :
    exponent? text = some n ↔ WritesExponent n text := by
  cases text with
  | nil =>
    constructor
    · rintro ⟨⟩
      exact .none
    · rintro ⟨⟩
      rfl
  | cons c rest =>
    constructor
    · intro h
      by_cases hletter : c = 'e' ∨ c = 'E'
      · rw [exponent?_cons hletter] at h
        exact .mark hletter (signed?_ten_eq_some_iff.mp h)
      · rw [exponent?, if_neg hletter] at h
        cases h
    · rintro (_ | ⟨hletter, h⟩)
      rw [exponent?_cons hletter]
      exact signed?_ten_eq_some_iff.mpr h

/-- What stands behind a point at the start of a text, up to the end of the digits, and the rest. -/
def splitFraction : List Char → List Char × List Char
  | '.' :: more => (more.takeWhile Char.isDigit, more.dropWhile Char.isDigit)
  | more => ([], more)

lemma isDigits_takeWhile (text : List Char) : IsDigits (text.takeWhile Char.isDigit) :=
  fun _ hc => List.all_eq_true.mp (List.all_takeWhile ..) _ hc

lemma writesFraction_splitFraction (text : List Char) :
    ∃ point, WritesFraction (splitFraction text).1 point ∧
      text = point ++ (splitFraction text).2 := by
  unfold splitFraction
  split
  · next more =>
    refine ⟨_, .point (isDigits_takeWhile more), ?_⟩
    rw [List.cons_append, List.takeWhile_append_dropWhile]
  · exact ⟨_, .none, rfl⟩

section
variable {n : Int} {digits point exponent : List Char}

lemma WritesExponent.head (h : WritesExponent n exponent) :
    ∀ c ∈ exponent.head?, c.isDigit = false ∧ c ≠ '.' := by
  rintro c hc
  cases h with
  | none => cases hc
  | mark letter _ =>
    obtain rfl : _ = c := Option.some.inj hc
    rcases letter with rfl | rfl
    · exact ⟨rfl, by decide⟩
    · exact ⟨rfl, by decide⟩

lemma splitFraction_append (h : WritesFraction digits point)
    (hexponent : WritesExponent n exponent) :
    splitFraction (point ++ exponent) = (digits, exponent) := by
  cases h with
  | none =>
    rw [List.nil_append]
    unfold splitFraction
    split
    · exact absurd rfl (hexponent.head '.' rfl).2
    · rfl
  | point hall =>
    have hend : ∀ c ∈ exponent.head?, c.isDigit = false := fun c hc => (hexponent.head c hc).1
    rw [List.cons_append, splitFraction, Markup.takeWhile_up_to hall hend,
      Markup.dropWhile_up_to hall hend]

/-- No digit follows the whole part. -/
lemma WritesFraction.head (h : WritesFraction digits point)
    (hexponent : WritesExponent n exponent) :
    ∀ c ∈ (point ++ exponent).head?, c.isDigit = false := by
  cases h with
  | none => exact fun c hc => (hexponent.head c hc).1
  | point _ =>
    rintro c ⟨⟩
    rfl

end

/-- A decimal begins with a digit or a point behind its sign. -/
lemma head_of_digits {whole digits point exponent : List Char} (hwhole : IsDigits whole)
    (h : WritesFraction digits point) (hsome : whole ++ digits ≠ []) :
    ∀ c ∈ (whole ++ (point ++ exponent)).head?, c ≠ '-' ∧ c ≠ '+' := by
  cases whole with
  | cons c rest =>
    rintro _ ⟨⟩
    exact isDigit_ne_sign (hwhole c (List.mem_cons_self ..))
  | nil =>
    cases h with
    | none => exact absurd rfl hsome
    | point _ =>
      rintro _ ⟨⟩
      decide

lemma decimal?_eq (text : List Char) :
    decimal? text =
      let rest := (splitSign text).2
      let whole := rest.takeWhile Char.isDigit
      let fraction := splitFraction (rest.dropWhile Char.isDigit)
      if whole.isEmpty && fraction.1.isEmpty then none
      else (exponent? fraction.2).map fun e => ⟨(splitSign text).1, whole, fraction.1, e⟩ := by
  rfl

lemma isEmpty_and_isEmpty {xs ys : List Char} :
    ¬ (xs.isEmpty && ys.isEmpty) = true ↔ xs ++ ys ≠ [] := by
  rw [Bool.and_eq_true, List.isEmpty_iff, List.isEmpty_iff, ne_eq, List.append_eq_nil_iff]

theorem decimal?_eq_some_iff {text : List Char} {d : Decimal} :
    decimal? text = some d ↔ WritesDecimal d text := by
  rw [decimal?_eq]
  simp only
  rw [Option.ite_none_left_eq_some, Option.map_eq_some_iff, isEmpty_and_isEmpty]
  constructor
  · rintro ⟨hsome, e, hscale, rfl⟩
    obtain ⟨sign, hsign, htext⟩ := writesSign_splitSign text
    obtain ⟨point, hpoint, hrest⟩ :=
      writesFraction_splitFraction ((splitSign text).2.dropWhile Char.isDigit)
    have hwritten : WritesDecimal ⟨_, _, _, e⟩ _ :=
      .mk hsign (isDigits_takeWhile _) hpoint hsome (exponent?_eq_some_iff.mp hscale)
    rwa [← hrest, List.takeWhile_append_dropWhile, ← htext] at hwritten
  · rintro ⟨hsign, hwhole, hfraction, hsome, hscale⟩
    rw [splitSign_append hsign (head_of_digits hwhole hfraction hsome)]
    simp only
    rw [Markup.takeWhile_up_to hwhole (hfraction.head hscale),
      Markup.dropWhile_up_to hwhole (hfraction.head hscale), splitFraction_append hfraction hscale]
    exact ⟨hsome, _, exponent?_eq_some_iff.mpr hscale, rfl⟩

/-! Words. -/

namespace IsWord
variable {text : List Char} {word : String}

lemma toLower_mem (h : IsWord text word) {c : Char} (hc : c ∈ text) : c.toLower ∈ word.toList := by
  rw [← h, String.toList_ofList]
  exact List.mem_map_of_mem hc

lemma exists_of_mem (h : IsWord text word) {d : Char} (hd : d ∈ word.toList) :
    ∃ c ∈ text, c.toLower = d := by
  rw [← h, String.toList_ofList] at hd
  exact List.mem_map.mp hd

lemma head_ne_sign (h : IsWord text word) (hword : '-' ∉ word.toList ∧ '+' ∉ word.toList) :
    ∀ c ∈ text.head?, c ≠ '-' ∧ c ≠ '+' := by
  intro c hc
  have hmem := h.toLower_mem (List.mem_of_mem_head? hc)
  constructor
  · rintro rfl
    exact hword.1 hmem
  · rintro rfl
    exact hword.2 hmem

end IsWord

/-- The size of the number that a word without sign stands for. -/
def wordSize? (text : List Char) : Option Float :=
  match String.ofList (text.map Char.toLower) with
  | "inf" | "infinity" => some (1.0 / 0.0)
  | "nan" => some (0.0 / 0.0)
  | _ => none

lemma floatWord?_eq (text : List Char) :
    floatWord? text =
      (wordSize? (splitSign text).2).map fun x => if (splitSign text).1 then -x else x := by
  rfl

theorem floatWord?_of_writesInfinity {negative : Bool} {text : List Char}
    (h : WritesInfinity negative text) :
    floatWord? text = some (if negative then -(1.0 / 0.0) else 1.0 / 0.0) := by
  obtain ⟨hsign, hinf | hinfinity⟩ := h
  · rw [floatWord?_eq, splitSign_append hsign (hinf.head_ne_sign (by decide)), wordSize?, hinf]
    rfl
  · rw [floatWord?_eq, splitSign_append hsign (hinfinity.head_ne_sign (by decide)), wordSize?,
      hinfinity]
    rfl

theorem floatWord?_of_writesNan {text : List Char} (h : WritesNan text) :
    ∃ negative : Bool, floatWord? text = some (if negative then -(0.0 / 0.0) else 0.0 / 0.0) := by
  obtain ⟨hsign, hnan⟩ := h
  rw [floatWord?_eq, splitSign_append hsign (hnan.head_ne_sign (by decide)), wordSize?, hnan]
  exact ⟨_, rfl⟩

lemma wordSize?_cases (text : List Char) :
    IsWord text "inf" ∨ IsWord text "infinity" ∨ IsWord text "nan" ∨ wordSize? text = none := by
  rw [wordSize?]
  split
  · next hinf => exact .inl hinf
  · next hinfinity => exact .inr (.inl hinfinity)
  · next hnan => exact .inr (.inr (.inl hnan))
  · exact .inr (.inr (.inr rfl))

/-- No other texts are words. -/
theorem floatWord?_cases (text : List Char) :
    (∃ negative, WritesInfinity negative text) ∨ WritesNan text ∨ floatWord? text = none := by
  obtain ⟨sign, hsign, htext⟩ := writesSign_splitSign text
  obtain hinf | hinfinity | hnan | hnone := wordSize?_cases (splitSign text).2
  · have hwritten := WritesInfinity.mk hsign (.inl hinf)
    rw [← htext] at hwritten
    exact .inl ⟨_, hwritten⟩
  · have hwritten := WritesInfinity.mk hsign (.inr hinfinity)
    rw [← htext] at hwritten
    exact .inl ⟨_, hwritten⟩
  · have hwritten := WritesNan.mk hsign hnan
    rw [← htext] at hwritten
    exact .inr (.inl hwritten)
  · rw [floatWord?_eq, hnone]
    exact .inr (.inr rfl)

/-! The characters of numerals and of words. -/

/-- A character of decimals. -/
def inDecimal (c : Char) : Bool := c.isDigit || ['+', '-', '.', 'e', 'E'].contains c

lemma inDecimal_of_isDigit {c : Char} (h : c.isDigit = true) : inDecimal c = true := by
  rw [inDecimal, h, Bool.true_or]

section
variable {n : Int} {text : List Char}

lemma WritesSign.inDecimal {negative : Bool} (h : WritesSign negative text) :
    ∀ c ∈ text, inDecimal c = true := by
  cases h with
  | none => exact nofun
  | plus => exact List.forall_mem_singleton.mpr rfl
  | minus => exact List.forall_mem_singleton.mpr rfl

lemma WritesFraction.inDecimal {digits : List Char} (h : WritesFraction digits text) :
    ∀ c ∈ text, inDecimal c = true := by
  cases h with
  | none => exact nofun
  | point all =>
    exact List.forall_mem_cons.mpr ⟨by decide, fun c hc => inDecimal_of_isDigit (all c hc)⟩

lemma WritesFraction.isDigits {digits : List Char} (h : WritesFraction digits text) :
    IsDigits digits ∧ digits ⊆ text := by
  cases h with
  | none => exact ⟨nofun, List.Subset.refl _⟩
  | point all => exact ⟨all, List.subset_cons_self ..⟩

lemma WritesInteger.inDecimal (h : WritesInteger n text) : ∀ c ∈ text, inDecimal c = true := by
  obtain ⟨hsign, hall, -⟩ := h
  exact List.forall_mem_append.mpr ⟨hsign.inDecimal, fun c hc => inDecimal_of_isDigit (hall c hc)⟩

lemma WritesExponent.inDecimal (h : WritesExponent n text) : ∀ c ∈ text, inDecimal c = true := by
  cases h with
  | none => exact nofun
  | mark letter exponent =>
    refine List.forall_mem_cons.mpr ⟨?_, exponent.inDecimal⟩
    rcases letter with rfl | rfl
    · decide
    · decide

/-- An integer is a decimal without fraction and exponent. -/
lemma WritesInteger.exists_writesDecimal (h : WritesInteger n text) :
    ∃ d, WritesDecimal d text := by
  obtain @⟨negative, sign, digits, hsign, hall, hsome⟩ := h
  have hwritten : WritesDecimal ⟨negative, digits, [], 0⟩ (sign ++ (digits ++ ([] ++ []))) :=
    .mk hsign hall .none (by rwa [List.append_nil]) .none
  rw [List.append_nil, List.append_nil] at hwritten
  exact ⟨_, hwritten⟩

end

section
variable {d : Decimal} {negative : Bool} {text : List Char}

lemma WritesDecimal.inDecimal (h : WritesDecimal d text) : ∀ c ∈ text, inDecimal c = true := by
  obtain ⟨hsign, hwhole, hfraction, -, hscale⟩ := h
  refine List.forall_mem_append.mpr ⟨hsign.inDecimal, List.forall_mem_append.mpr ⟨?_, ?_⟩⟩
  · exact fun c hc => inDecimal_of_isDigit (hwhole c hc)
  · exact List.forall_mem_append.mpr ⟨hfraction.inDecimal, hscale.inDecimal⟩

/-- A decimal has a digit. -/
lemma WritesDecimal.exists_isDigit (h : WritesDecimal d text) :
    ∃ c ∈ text, c.isDigit = true := by
  obtain ⟨-, hwhole, hfraction, hsome, -⟩ := h
  obtain ⟨c, hc⟩ := List.exists_mem_of_ne_nil _ hsome
  rcases List.mem_append.mp hc with hc | hc
  · exact ⟨c, by simp [hc], hwhole c hc⟩
  · obtain ⟨hall, hpoint⟩ := hfraction.isDigits
    exact ⟨c, by simp [hpoint hc], hall c hc⟩

lemma eq_of_toLower_eq {c : Char} (h : c.toLower = 'n') : c = 'n' ∨ c = 'N' := by
  rw [Char.toLower] at h
  split at h
  · have hsum : c.val + 32 = 110 := congrArg Char.val h
    have hval : c.val = 78 := by grind
    exact .inr (Char.ext hval)
  · exact .inl h

lemma IsWord.mem_n {word : String} (h : IsWord text word) (hn : 'n' ∈ word.toList) :
    'n' ∈ text ∨ 'N' ∈ text := by
  obtain ⟨c, hc, hlower⟩ := h.exists_of_mem hn
  rcases eq_of_toLower_eq hlower with rfl | rfl
  · exact .inl hc
  · exact .inr hc

lemma mem_n_append {sign : List Char} (h : 'n' ∈ text ∨ 'N' ∈ text) :
    'n' ∈ sign ++ text ∨ 'N' ∈ sign ++ text :=
  h.imp (List.mem_append_right sign) (List.mem_append_right sign)

/-- All words have an N. -/
lemma WritesInfinity.mem_n (h : WritesInfinity negative text) : 'n' ∈ text ∨ 'N' ∈ text := by
  obtain ⟨-, hinf | hinfinity⟩ := h
  · exact mem_n_append (hinf.mem_n (by decide))
  · exact mem_n_append (hinfinity.mem_n (by decide))

lemma WritesNan.mem_n (h : WritesNan text) : 'n' ∈ text ∨ 'N' ∈ text := by
  obtain ⟨-, hnan⟩ := h
  exact mem_n_append (hnan.mem_n (by decide))

/-- What is no decimal is no integer. -/
lemma signed?_eq_none_of_decimal? (h : decimal? text = none) : signed? 10 text = none := by
  rw [Option.eq_none_iff_forall_ne_some]
  intro n hn
  obtain ⟨d, hd⟩ := (signed?_ten_eq_some_iff.mp hn).exists_writesDecimal
  rw [decimal?_eq_some_iff.mpr hd] at h
  cases h

/-- No word is a decimal. -/
lemma decimal?_eq_none_of_mem_n (h : 'n' ∈ text ∨ 'N' ∈ text) : decimal? text = none := by
  rw [Option.eq_none_iff_forall_ne_some]
  intro d hd
  have hchars := (decimal?_eq_some_iff.mp hd).inDecimal
  rcases h with h | h
  · exact absurd (hchars _ h) (by decide)
  · exact absurd (hchars _ h) (by decide)

end

end GatewayRecipes.Number
