import GatewayRecipes.Markup.Entity

/-! The inside of a start tag: its name, then attributes with quoted values. Offsets are bytes of
the inside. -/
namespace GatewayRecipes.Markup

def isSpace (c : Char) : Bool := c == ' ' || c == '\r' || c == '\n' || c == '\t'

def endsKey (c : Char) : Bool := c == '=' || isSpace c

/-- What is left of a text behind its first `offset` bytes. -/
structure Remainder where
  offset : Nat
  chars : List Char
  deriving Repr, DecidableEq, Inhabited

namespace Remainder

def skip (r : Remainder) (p : Char → Bool) : Remainder :=
  ⟨r.offset + Text.byteLength (r.chars.takeWhile p), r.chars.dropWhile p⟩

theorem length_skip_le (r : Remainder) (p : Char → Bool) :
    (r.skip p).chars.length ≤ r.chars.length :=
  (List.dropWhile_suffix (l := r.chars) p).length_le

end Remainder

/-- An attribute key, the offset where it starts, and what follows its equals sign. -/
structure KeyRead where
  key : List Char
  offset : Nat
  rest : Remainder
  deriving Repr, DecidableEq

/-- Pass over an equals sign and the white space before it. -/
def expectEq (r : Remainder) : Except AttributeFault Remainder :=
  match r.skip isSpace with
  | ⟨offset, '=' :: rest⟩ => .ok ⟨offset + 1, rest⟩
  | ⟨offset, _⟩ => .error (.expectedEq offset)

/-- Read the next key and its equals sign, or nothing where only white space is left. The first
character always belongs to the key. -/
def readKey (r : Remainder) : Except AttributeFault (Option KeyRead) :=
  match r.skip isSpace with
  | ⟨_, []⟩ => .ok none
  | ⟨start, c :: more⟩ =>
    match expectEq (Remainder.skip ⟨start + c.utf8Size, more⟩ (!endsKey ·)) with
    | .error fault => .error fault
    | .ok rest => .ok (some ⟨c :: more.takeWhile (!endsKey ·), start, rest⟩)

/-- Read the rest of a value up to its closing quote. -/
def readQuoted (quote : Char) (r : Remainder) : Except AttributeFault (List Char × Remainder) :=
  match r.skip (· != quote) with
  | ⟨offset, _ :: rest⟩ => .ok (r.chars.takeWhile (· != quote), ⟨offset + 1, rest⟩)
  | ⟨offset, []⟩ => .error (.expectedQuote offset quote)

def readValue (r : Remainder) : Except AttributeFault (List Char × Remainder) :=
  match r.skip isSpace with
  | ⟨offset, []⟩ => .error (.expectedValue offset)
  | ⟨offset, c :: rest⟩ =>
    if c = '"' ∨ c = '\'' then readQuoted c ⟨offset + 1, rest⟩
    else .error (.unquotedValue offset)

theorem expectEq_length {r r' : Remainder} (h : expectEq r = .ok r') :
    r'.chars.length < r.chars.length := by
  have hs := r.length_skip_le isSpace
  unfold expectEq at h
  split at h <;> simp_all
  subst h
  exact hs

theorem readKey_length {r : Remainder} {k : KeyRead} (h : readKey r = .ok (some k)) :
    k.rest.chars.length < r.chars.length := by
  have hs := r.length_skip_le isSpace
  unfold readKey at h
  split at h
  · simp at h
  · next start c more hr =>
    split at h
    · simp at h
    · next rest he =>
      simp only [Except.ok.injEq, Option.some.injEq] at h
      subst h
      have h₁ := expectEq_length he
      have h₂ := Remainder.length_skip_le ⟨start + c.utf8Size, more⟩ (!endsKey ·)
      rw [hr] at hs
      simp only [List.length_cons] at hs h₂ ⊢
      omega

theorem readQuoted_length {quote : Char} {r r' : Remainder} {v : List Char}
    (h : readQuoted quote r = .ok (v, r')) : r'.chars.length < r.chars.length := by
  have hs := r.length_skip_le (· != quote)
  unfold readQuoted at h
  split at h <;> simp_all
  obtain ⟨-, rfl⟩ := h
  exact hs

theorem readValue_length {r r' : Remainder} {v : List Char} (h : readValue r = .ok (v, r')) :
    r'.chars.length < r.chars.length := by
  have hs := r.length_skip_le isSpace
  unfold readValue at h
  split at h
  · simp at h
  · next offset c rest hr =>
    split at h
    · have := readQuoted_length h
      rw [hr] at hs
      simp only [List.length_cons] at hs this ⊢
      omega
    · simp at h

/-- Read attributes, each key once. `seen` are the keys so far with the offsets where they start. -/
def readAttributes (seen : List (List Char × Nat)) (r : Remainder) :
    Except AttributeFault (List (String × String)) :=
  match _hk : readKey r with
  | .error fault => .error fault
  | .ok none => .ok []
  | .ok (some k) =>
    match seen.lookup k.key with
    | some previous => .error (.duplicated k.offset previous)
    | none =>
      match _hv : readValue k.rest with
      | .error fault => .error fault
      | .ok (raw, rest) =>
        match unescape raw with
        | .error fault => .error (.badValue (String.ofList k.key) fault)
        | .ok value =>
          match readAttributes ((k.key, k.offset) :: seen) rest with
          | .error fault => .error fault
          | .ok attributes => .ok ((String.ofList k.key, String.ofList value) :: attributes)
termination_by r.chars.length
decreasing_by exact Nat.lt_trans (readValue_length _hv) (readKey_length _hk)

def qualifiedName (inside : List Char) : List Char := inside.takeWhile (!isSpace ·)

/-- The part of a name behind its first colon, or the whole name. -/
def localName (name : List Char) : List Char :=
  match name.dropWhile (· != ':') with
  | _ :: rest => rest
  | [] => name

/-- The attributes of a tag, with qualified keys and plain values. -/
def tagAttributes (inside : List Char) : Except AttributeFault (List (String × String)) :=
  readAttributes [] (Remainder.skip ⟨0, inside⟩ (!isSpace ·))

def tagName (inside : List Char) : String := String.ofList (localName (qualifiedName inside))

end GatewayRecipes.Markup
