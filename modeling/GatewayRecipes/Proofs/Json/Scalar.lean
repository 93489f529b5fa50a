import GatewayRecipes.Json.Tree
import GatewayRecipes.Proofs.Markup.Escape

/-! Strings and numbers survive their written form: a reader that meets one gives back what was
written and stops behind it. -/
namespace GatewayRecipes.Json

/-- A character is written as itself, as an escape by letter or as one by number. -/
lemma escapeChar_cases (c : Char) :
    (escapeChar c = [c] ∧ c ≠ '"' ∧ c ≠ '\\' ∧ ¬ c.toNat < 32) ∨
      (∃ e, escapeChar c = ['\\', e] ∧ e ≠ 'u' ∧ simpleEscape? e = some c) ∨
      (escapeChar c =
          ['\\', 'u', '0', '0', hexDigit (c.toNat / 16), hexDigit (c.toNat % 16)] ∧
        c.toNat < 32) := by
  unfold escapeChar
  split
  · next h => exact .inr (.inl ⟨'"', rfl, by decide, by rw [h]; rfl⟩)
  split
  · next h => exact .inr (.inl ⟨'\\', rfl, by decide, by rw [h]; rfl⟩)
  split
  · next h => exact .inr (.inl ⟨'b', rfl, by decide, by rw [h]; rfl⟩)
  split
  · next h => exact .inr (.inl ⟨'f', rfl, by decide, by rw [h]; rfl⟩)
  split
  · next h => exact .inr (.inl ⟨'n', rfl, by decide, by rw [h]; rfl⟩)
  split
  · next h => exact .inr (.inl ⟨'r', rfl, by decide, by rw [h]; rfl⟩)
  split
  · next h => exact .inr (.inl ⟨'t', rfl, by decide, by rw [h]; rfl⟩)
  split
  · next h => exact .inr (.inr ⟨rfl, h⟩)
  · next hquote hbackslash _ _ _ _ _ h => exact .inl ⟨rfl, hquote, hbackslash, h⟩

lemma hexValue?_hexDigit : ∀ n < 16, hexValue? (hexDigit n) = some n := by decide

lemma readHex4_number {n : Nat} (h : n < 32) (rest : List Char) :
    readHex4 ('0' :: '0' :: hexDigit (n / 16) :: hexDigit (n % 16) :: rest) = .ok (n, rest) := by
  have h0 : hexValue? '0' = some 0 := rfl
  have hn : ((0 * 16 + 0) * 16 + n / 16) * 16 + n % 16 = n := by omega
  rw [readHex4, h0, hexValue?_hexDigit (n / 16) (by omega), hexValue?_hexDigit (n % 16) (by omega)]
  simp only [hn]

lemma readString_plain {c : Char} (hquote : c ≠ '"') (hbackslash : c ≠ '\\')
    (h : ¬ c.toNat < 32) (rest : List Char) :
    readString (c :: rest) = (readString rest).cons c := by
  rw [readString, if_neg h] <;> simp_all

lemma readString_letter {e c : Char} (hu : e ≠ 'u') (h : simpleEscape? e = some c)
    (rest : List Char) : readString ('\\' :: e :: rest) = (readString rest).cons c := by
  rw [readString, h]
  simpa using hu

lemma readString_number {n : Nat} (h : n < 32) (rest : List Char) :
    readString
        ('\\' :: 'u' :: '0' :: '0' :: hexDigit (n / 16) :: hexDigit (n % 16) :: rest) =
      (readString rest).cons (Char.ofNat n) := by
  have hhigh : isHighSurrogate n = false := by simp [isHighSurrogate]; omega
  have hlow : isLowSurrogate n = false := by simp [isLowSurrogate]; omega
  rw [readString]
  split
  · next he => rw [readHex4_number h] at he; cases he
  · next m rest' he =>
    rw [readHex4_number h] at he
    cases he
    rw [if_neg (by simp [hhigh]), if_neg (by simp [hlow])]

lemma readString_escapeChar (c : Char) (rest : List Char) :
    readString (escapeChar c ++ rest) = (readString rest).cons c := by
  obtain ⟨he, hquote, hbackslash, h⟩ | ⟨e, he, hu, h⟩ | ⟨he, h⟩ := escapeChar_cases c
  · rw [he]
    exact readString_plain hquote hbackslash h rest
  · rw [he]
    exact readString_letter hu h rest
  · rw [he]
    have hc := readString_number h rest
    rwa [Char.ofNat_toNat] at hc

/-- Reading behind the opening quote gives what was written, and stops behind the closing one. -/
theorem readString_escaped (s rest : List Char) :
    readString (s.flatMap escapeChar ++ '"' :: rest) = ⟨.ok s, .ok rest⟩ := by
  induction s with
  | nil => rw [List.flatMap_nil, List.nil_append, readString]
  | cons c s ih =>
    rw [List.flatMap_cons, List.append_assoc, readString_escapeChar, ih]
    rfl

/-- What may stand behind a number: no digit, and nothing that begins a fraction or an exponent. -/
def EndsNumber (rest : List Char) : Prop :=
  ∀ c ∈ rest.head?, c.isDigit = false ∧ c ≠ '.' ∧ c ≠ 'e' ∧ c ≠ 'E'

lemma readDigits_up_to {digits rest : List Char} (hne : digits ≠ [])
    (hd : ∀ c ∈ digits, c.isDigit = true) (hr : EndsNumber rest) :
    readDigits (digits ++ rest) = .ok (digits, rest) := by
  have hend : ∀ c ∈ rest.head?, c.isDigit = false := fun c hc => (hr c hc).1
  have ht := Markup.takeWhile_up_to hd hend
  have hw := Markup.dropWhile_up_to hd hend
  cases digits with
  | nil => exact absurd rfl hne
  | cons c more =>
    rw [List.cons_append] at ht hw ⊢
    rw [readDigits, if_pos (hd c (List.mem_cons_self ..)), ht, hw]

lemma readFraction_none {rest : List Char} (hr : EndsNumber rest) :
    readFraction rest = .ok (none, rest) := by
  unfold readFraction
  split
  · next more => exact absurd rfl (hr '.' rfl).2.1
  · rfl

lemma readExponent_none {rest : List Char} (hr : EndsNumber rest) :
    readExponent rest = .ok (none, rest) := by
  cases rest with
  | nil => rfl
  | cons c more =>
    have hc := hr c rfl
    rw [readExponent, if_neg]
    exact not_or.mpr hc.2.2

lemma isDigit_of_mem_toDigits {n : Nat} {c : Char} (h : c ∈ Nat.toDigits 10 n) :
    c.isDigit = true :=
  Nat.isDigit_of_mem_toDigits (by decide) (by decide) h

lemma digitChar_ne_zero : ∀ n < 10, 0 < n → Nat.digitChar n ≠ '0' := by decide

/-- The digits of a number other than zero do not begin with a zero. -/
lemma toDigits_ne_zero_cons {n : Nat} (h : 0 < n) (more : List Char) :
    Nat.toDigits 10 n ≠ '0' :: more := by
  induction n using Nat.strongRecOn generalizing more with
  | ind n ih =>
    rcases Nat.lt_or_ge n 10 with hn | hn
    · rw [Nat.toDigits_of_lt_base hn]
      intro he
      exact digitChar_ne_zero n hn h (List.cons.inj he).1
    · rw [Nat.toDigits_of_base_le (by decide) hn]
      intro he
      obtain ⟨hnil, -⟩ | ⟨front, hfront, -⟩ := List.append_eq_cons_iff.mp he
      · exact Nat.toDigits_ne_nil hnil
      · exact ih (n / 10) (by omega) (by omega) front hfront

/-- A number is read up to what stands behind its digits. -/
theorem readNumeral_toDigits (n : Nat) {rest : List Char} (hr : EndsNumber rest) :
    readNumeral false (Nat.toDigits 10 n ++ rest) =
      .ok (⟨false, Nat.toDigits 10 n, none, none⟩, rest) := by
  have hwhole : readWhole (Nat.toDigits 10 n ++ rest) = .ok (Nat.toDigits 10 n, rest) := by
    rcases Nat.eq_zero_or_pos n with rfl | hn
    · have h0 : ¬ rest.head?.any Char.isDigit = true := by
        cases rest with
        | nil => simp
        | cons c more => simp [(hr c rfl).1]
      change readWhole ('0' :: rest) = .ok (['0'], rest)
      rw [readWhole, if_neg h0]
    · rw [← readDigits_up_to Nat.toDigits_ne_nil (fun c => isDigit_of_mem_toDigits) hr]
      unfold readWhole
      split
      · next more he =>
        obtain ⟨hnil, -⟩ | ⟨front, hfront, -⟩ := List.append_eq_cons_iff.mp he
        · exact absurd hnil Nat.toDigits_ne_nil
        · exact absurd hfront (toDigits_ne_zero_cons hn front)
      · rfl
  unfold readNumeral
  rw [hwhole]
  simp only [bind, Except.bind, readFraction_none hr, readExponent_none hr]
  rfl

end GatewayRecipes.Json
