import GatewayRecipes.Proofs.Markup.Escape
import GatewayRecipes.Text.Quoted
import Mathlib.Tactic.SplitIfs

/-! Texts that can be told from what follows them: between two of them no reader could waver.
Texts in quotes are such texts. -/
namespace GatewayRecipes.Text

/-- The written form of `a`, with something behind it that may follow, is that of no other value
and of nothing else behind it. -/
def Legible {α : Type} (P : α → Prop) (write : α → List Char) (next : List Char → Prop) (a : α) :
    Prop :=
  ∀ ⦃b⦄, P b → ∀ ⦃s t⦄, next s → next t → write a ++ s = write b ++ t → a = b ∧ s = t

section
variable {α : Type} {p : α → Bool} {xs xs' ys ys' : List α}

/-- Two texts with a mark behind them that they do not hold themselves. -/
lemma append_inj_up_to (hx : ∀ x ∈ xs, p x = true) (hy : ∀ y ∈ ys.head?, p y = false)
    (hx' : ∀ x ∈ xs', p x = true) (hy' : ∀ y ∈ ys'.head?, p y = false)
    (h : xs ++ ys = xs' ++ ys') : xs = xs' ∧ ys = ys' := by
  constructor
  · rw [← Markup.takeWhile_up_to hx hy, h, Markup.takeWhile_up_to hx' hy']
  · rw [← Markup.dropWhile_up_to hx hy, h, Markup.dropWhile_up_to hx' hy']

end

section
variable {α : Type} {P : α → Prop} {write : α → List Char} {ends next : List Char → Prop}

lemma Legible.restrict {a : α} (h : Legible P write (fun _ => True) a) :
    Legible P write next a :=
  fun _ hb _ _ _ _ he => h hb trivial trivial he

/-- Pieces that can be written one behind the other: none looks like the end of all, and what
stands behind a piece, be it the end or another piece, is what may follow it. -/
structure Pieces (P : α → Prop) (write : α → List Char) (ends next : List Char → Prop) :
    Prop where
  not_ends : ∀ {a}, P a → ∀ s, ¬ ends (write a ++ s)
  next_of_ends : ∀ {s}, ends s → next s
  next_write : ∀ {a}, P a → ∀ s, next (write a ++ s)

lemma Pieces.next_flatMap (hp : Pieces P write ends next) {as : List α} (has : ∀ a ∈ as, P a)
    {s : List Char} (hs : ends s) : next (as.flatMap write ++ s) := by
  cases as with
  | nil => exact hp.next_of_ends hs
  | cons a as =>
    rw [List.flatMap_cons, List.append_assoc]
    exact hp.next_write (has a List.mem_cons_self) _

/-- All pieces are told from their end and from each other if each one is. -/
theorem Pieces.legible (hp : Pieces P write ends next) {as : List α} (has : ∀ a ∈ as, P a)
    (hw : ∀ a ∈ as, Legible P write next a) :
    Legible (fun bs => ∀ b ∈ bs, P b) (List.flatMap write) ends as := by
  induction as with
  | nil =>
    rintro (_ | ⟨b, bs⟩) hbs s t hs ht h
    · exact ⟨rfl, h⟩
    · rw [List.flatMap_nil, List.nil_append, List.flatMap_cons, List.append_assoc] at h
      exact absurd (h ▸ hs) (hp.not_ends (hbs b List.mem_cons_self) _)
  | cons a as ih =>
    obtain ⟨ha, has⟩ := List.forall_mem_cons.mp has
    obtain ⟨hwa, hw⟩ := List.forall_mem_cons.mp hw
    rintro (_ | ⟨b, bs⟩) hbs s t hs ht h
    · rw [List.flatMap_nil, List.nil_append, List.flatMap_cons, List.append_assoc] at h
      exact absurd (h ▸ ht) (hp.not_ends ha _)
    · obtain ⟨hb, hrest⟩ := List.forall_mem_cons.mp hbs
      rw [List.flatMap_cons, List.flatMap_cons, List.append_assoc, List.append_assoc] at h
      obtain ⟨rfl, htail⟩ := hwa hb (hp.next_flatMap has hs) (hp.next_flatMap hrest ht) h
      obtain ⟨rfl, hst⟩ := ih has hw hrest hs ht htail
      exact ⟨rfl, hst⟩

end

/-! Hexadecimal digits. -/

lemma digitChar_injective_of_lt :
    ∀ m < 16, ∀ n < 16, Nat.digitChar m = Nat.digitChar n → m = n := by decide

/-- The digits of a sixteenth, and one more. -/
lemma hexDigits_eq (n : Nat) :
    Nat.toDigits 16 n =
      (if n < 16 then [] else Nat.toDigits 16 (n / 16)) ++ [Nat.digitChar (n % 16)] := by
  rw [Nat.toDigits_eq_if (by decide)]
  split
  · next h => rw [Nat.mod_eq_of_lt h, List.nil_append]
  · rfl

lemma hexDigits_injective {m n : Nat} (h : Nat.toDigits 16 m = Nat.toDigits 16 n) : m = n := by
  induction m using Nat.strongRecOn generalizing n with
  | _ m ih =>
    rw [hexDigits_eq m, hexDigits_eq n, List.append_singleton_inj] at h
    obtain ⟨hfront, hlast⟩ := h
    have hmod : m % 16 = n % 16 :=
      digitChar_injective_of_lt _ (Nat.mod_lt m (by decide)) _ (Nat.mod_lt n (by decide)) hlast
    split_ifs at hfront with hm hn hn
    · omega
    · exact absurd hfront.symm Nat.toDigits_ne_nil
    · exact absurd hfront Nat.toDigits_ne_nil
    · have hdiv := ih (m / 16) (by omega) hfront
      omega

lemma brace_not_mem_hexDigits (n : Nat) : '\x7d' ∉ Nat.toDigits 16 n := by
  induction n using Nat.strongRecOn with
  | _ n ih =>
    rw [hexDigits_eq, List.mem_append, List.mem_singleton]
    rintro (h | h)
    · split_ifs at h with hn
      · cases h
      · exact ih (n / 16) (by omega) h
    · exact Nat.digitChar_ne '\x7d' (by decide) h.symm

/-! Characters in quotes. -/

lemma codePointEscape_append_inj {c d : Char} {s t : List Char}
    (h : codePointEscape c ++ s = codePointEscape d ++ t) : c = d ∧ s = t := by
  simp only [codePointEscape, List.append_assoc, List.append_cancel_left_eq,
    List.singleton_append] at h
  obtain ⟨hdigits, hrest⟩ := append_inj_up_to (p := (· != '\x7d'))
    (Markup.bne_of_not_mem (brace_not_mem_hexDigits _)) (Markup.head_cons (by simp) _)
    (Markup.bne_of_not_mem (brace_not_mem_hexDigits _)) (Markup.head_cons (by simp) _) h
  exact ⟨Char.toNat_inj.mp (hexDigits_injective hdigits), (List.cons.inj hrest).2⟩

def letterEscape? : Char → Option Char
  | '0' => some '\x00'
  | 't' => some '\t'
  | 'r' => some '\r'
  | 'n' => some '\n'
  | '\\' => some '\\'
  | '"' => some '"'
  | _ => none

/-- A character is written as itself, as an escape by letter or as one by code point. -/
lemma quoteChar_cases (c : Char) :
    (quoteChar c = [c] ∧ c ≠ '\\' ∧ c ≠ '"') ∨
      (∃ k, quoteChar c = ['\\', k] ∧ letterEscape? k = some c) ∨
      quoteChar c = codePointEscape c := by
  unfold quoteChar
  split
  · next h => exact .inr (.inl ⟨'0', rfl, by rw [h]; rfl⟩)
  split
  · next h => exact .inr (.inl ⟨'t', rfl, by rw [h]; rfl⟩)
  split
  · next h => exact .inr (.inl ⟨'r', rfl, by rw [h]; rfl⟩)
  split
  · next h => exact .inr (.inl ⟨'n', rfl, by rw [h]; rfl⟩)
  split
  · next h => exact .inr (.inl ⟨'\\', rfl, by rw [h]; rfl⟩)
  split
  · next h => exact .inr (.inl ⟨'"', rfl, by rw [h]; rfl⟩)
  split
  · exact .inr (.inr rfl)
  · next hbackslash hquote _ => exact .inl ⟨rfl, hbackslash, hquote⟩

/-- Which way a character was written is known by its first two characters. -/
lemma letter_ne_codePointEscape {k c : Char} (h : letterEscape? k = some c) (d : Char)
    (s t : List Char) : ['\\', k] ++ s ≠ codePointEscape d ++ t := by
  intro he
  obtain rfl : k = 'u' := (List.cons.inj (List.cons.inj he).2).1
  cases h

lemma quoteChar_legible (c : Char) :
    Legible (fun _ => True) quoteChar (fun _ => True) c := by
  intro d _ s t _ _ h
  -- Each of the three ways against each: two characters written in one way are the same, and no
  -- two ways begin alike.
  obtain ⟨hc, hslash, -⟩ | ⟨k, hc, hk⟩ | hc := quoteChar_cases c <;>
  obtain ⟨hd, hslash', -⟩ | ⟨l, hd, hl⟩ | hd := quoteChar_cases d <;>
  rw [hc, hd] at h
  · simpa using h
  · exact absurd (List.cons.inj h).1 hslash
  · exact absurd (List.cons.inj h).1 hslash
  · exact absurd (List.cons.inj h).1.symm hslash'
  · obtain ⟨rfl, rfl⟩ : k = l ∧ s = t := by simpa using h
    exact ⟨Option.some.inj (hk.symm.trans hl), rfl⟩
  · exact absurd h (letter_ne_codePointEscape hk d s t)
  · exact absurd (List.cons.inj h).1.symm hslash'
  · exact absurd h.symm (letter_ne_codePointEscape hl c t s)
  · exact codePointEscape_append_inj h

lemma quoteChar_head_ne (c : Char) (s : List Char) : (quoteChar c ++ s).head? ≠ some '"' := by
  obtain ⟨hc, -, hquote⟩ | ⟨k, hc, -⟩ | hc := quoteChar_cases c
  · simpa [hc] using hquote
  · simp [hc]
  · simp [hc, codePointEscape]

/-- A text in quotes tells which text it is, and where it ends. -/
theorem quote_legible (text : List Char) :
    Legible (fun _ => True) quote (fun _ => True) text := by
  have hpieces : Pieces (fun _ => True) quoteChar (fun s => s.head? = some '"')
      (fun _ => True) :=
    ⟨fun {c} _ s => quoteChar_head_ne c s, fun _ => trivial, fun _ _ => trivial⟩
  intro text' _ s t _ _ h
  simp only [quote, List.cons_append, List.append_assoc, List.nil_append, List.cons.injEq,
    true_and] at h
  obtain ⟨htext, hrest⟩ := hpieces.legible (fun _ _ => trivial)
    (fun c _ => quoteChar_legible c) (fun _ _ => trivial) rfl rfl h
  exact ⟨htext, (List.cons.inj hrest).2⟩

end GatewayRecipes.Text
