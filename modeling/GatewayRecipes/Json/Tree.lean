import GatewayRecipes.Json.Printer
import GatewayRecipes.Number.Integer
import GatewayRecipes.Text.Utf8

/-! JSON texts as trees, read as far as they are well-formed. Where a text is at fault the tree has
a broken end, so that readers of it meet its problems in the order of the text. -/
namespace GatewayRecipes.Json

/-- What is wrong with a text at some place. -/
inductive Problem
  | malformed
  /-- The text ends too early. -/
  | truncated
  deriving Repr, DecidableEq, Inhabited

/-- A number as it is written. -/
structure Numeral where
  negative : Bool
  whole : List Char
  /-- The digits behind a point. -/
  fraction : Option (List Char)
  /-- The digits of an exponent, and whether it is negative. -/
  exponent : Option (Bool × List Char)
  deriving Repr, DecidableEq, Inhabited

/-- How a list or a record ends. -/
inductive Ending
  | closed
  /-- With a problem, behind a comma or not. -/
  | broken (afterComma : Bool) (problem : Problem)
  /-- Within a key: what a reader of the key meets, and what one meets who passes over it. -/
  | brokenKey (read skip : Problem)
  deriving Repr, DecidableEq, Inhabited

inductive Tree
  | null
  | bool (b : Bool)
  | number (n : Numeral)
  /-- A string, which can be passed over but perhaps not be read. -/
  | text (s : Except Problem String)
  | list (items : List Tree) (ending : Ending)
  /-- Keys, which can be passed over but perhaps not be read, with their values. -/
  | record (fields : List (Except Problem String × Tree)) (ending : Ending)
  /-- A record that begins with something else than a key. -/
  | keyless (found : Tree) (problem : Problem)
  /-- What begins with a character, if any, and cannot be passed over: what a reader meets, and
  what one meets who passes over it. -/
  | broken (first : Option Char) (read skip : Problem)
  deriving Inhabited

def isSpace (c : Char) : Bool := c == ' ' || c == '\n' || c == '\t' || c == '\r'

def skipSpace (cs : List Char) : List Char := cs.dropWhile isSpace

def hexValue? (c : Char) : Option Nat := Number.digitIn? 16 c

def readHex4 (cs : List Char) : Except Problem (Nat × List Char) :=
  match cs with
  | a :: b :: c :: d :: rest =>
    match hexValue? a, hexValue? b, hexValue? c, hexValue? d with
    | some a, some b, some c, some d => .ok (((a * 16 + b) * 16 + c) * 16 + d, rest)
    | _, _, _, _ => .error .malformed
  | _ => .error (if Text.byteLength cs < 4 then .truncated else .malformed)

/-- The rest of a string: its content, if it can be read, and what follows it, if it can be passed
over. -/
structure StringRead where
  content : Except Problem (List Char)
  rest : Except Problem (List Char)

namespace StringRead

/-- A string that can be neither read nor passed over. -/
def fail (p : Problem) : StringRead := ⟨.error p, .error p⟩

/-- A string with one more character in front. -/
def cons (c : Char) (s : StringRead) : StringRead := ⟨s.content.map (c :: ·), s.rest⟩

def unreadable (p : Problem) (s : StringRead) : StringRead := ⟨.error p, s.rest⟩

end StringRead

/-- The character that a letter behind a backslash stands for. -/
def simpleEscape? : Char → Option Char
  | '"' => some '"'
  | '\\' => some '\\'
  | '/' => some '/'
  | 'b' => some '\x08'
  | 'f' => some '\x0c'
  | 'n' => some '\n'
  | 'r' => some '\r'
  | 't' => some '\t'
  | _ => none

def isHighSurrogate (n : Nat) : Bool := 0xd800 ≤ n && n ≤ 0xdbff

def isLowSurrogate (n : Nat) : Bool := 0xdc00 ≤ n && n ≤ 0xdfff

/-- What follows a high surrogate: the low one and the text behind it, or a problem. -/
def readLowSurrogate (cs : List Char) : Except Problem (Nat × List Char) :=
  match cs with
  | [] | ['\\'] => .error .truncated
  | '\\' :: 'u' :: more =>
    match readHex4 more with
    | .error p => .error p
    | .ok (n, rest) => if isLowSurrogate n then .ok (n, rest) else .error .malformed
  | _ => .error .malformed

theorem readHex4_length {cs rest : List Char} {n : Nat} (h : readHex4 cs = .ok (n, rest)) :
    rest.length < cs.length := by
  unfold readHex4 at h
  split at h
  · split at h
    · simp only [Except.ok.injEq, Prod.mk.injEq] at h
      obtain ⟨-, rfl⟩ := h
      simp
      omega
    · simp at h
  · simp at h

theorem readLowSurrogate_length {cs rest : List Char} {n : Nat}
    (h : readLowSurrogate cs = .ok (n, rest)) : rest.length < cs.length := by
  unfold readLowSurrogate at h
  split at h
  · simp at h
  · simp at h
  · split at h
    · simp at h
    · next hr =>
      split at h <;> simp only [Except.ok.injEq, Prod.mk.injEq, reduceCtorEq] at h
      obtain ⟨-, rfl⟩ := h
      have := readHex4_length hr
      simp
      omega
  · simp at h

/-- Read a string behind its opening quote. -/
def readString (cs : List Char) : StringRead :=
  match cs with
  | [] => .fail .truncated
  | '"' :: rest => ⟨.ok [], .ok rest⟩
  | ['\\'] => .fail .truncated
  | '\\' :: 'u' :: more =>
    match _h : readHex4 more with
    | .error p => .fail p
    | .ok (n, rest) =>
      if isHighSurrogate n then
        match _h' : readLowSurrogate rest with
        | .ok (low, rest') =>
          (readString rest').cons (Char.ofNat (0x10000 + (n - 0xd800) * 0x400 + (low - 0xdc00)))
        | .error p => (readString rest).unreadable p
      else if isLowSurrogate n then (readString rest).unreadable .malformed
      else (readString rest).cons (Char.ofNat n)
  | '\\' :: e :: rest =>
    match simpleEscape? e with
    | some c => (readString rest).cons c
    | none => .fail .malformed
  | c :: rest => if c.toNat < 32 then .fail .malformed else (readString rest).cons c
termination_by cs.length
decreasing_by
  · have := readHex4_length _h
    have := readLowSurrogate_length _h'
    simp
    omega
  · have := readHex4_length _h
    simp
    omega
  · have := readHex4_length _h
    simp
    omega
  · have := readHex4_length _h
    simp
    omega
  · simp only [List.length_cons]; omega
  · simp only [List.length_cons]; omega

/-- Digits, of which there is at least one, and what follows them. -/
def readDigits (cs : List Char) : Except Problem (List Char × List Char) :=
  match cs with
  | [] => .error .truncated
  | c :: _ =>
    if c.isDigit then .ok (cs.takeWhile Char.isDigit, cs.dropWhile Char.isDigit)
    else .error .malformed

/-- The whole part of a number: a zero alone, or digits that do not begin with one. -/
def readWhole (cs : List Char) : Except Problem (List Char × List Char) :=
  match cs with
  | '0' :: rest => if rest.head?.any Char.isDigit then .error .malformed else .ok (['0'], rest)
  | _ => readDigits cs

def readFraction (cs : List Char) : Except Problem (Option (List Char) × List Char) :=
  match cs with
  | '.' :: rest => (readDigits rest).map fun (digits, rest) => (some digits, rest)
  | _ => .ok (none, cs)

def readExponent (cs : List Char) : Except Problem (Option (Bool × List Char) × List Char) :=
  match cs with
  | c :: rest =>
    if c = 'e' ∨ c = 'E' then
      let (negative, digits) := Number.splitSign rest
      (readDigits digits).map fun (digits, rest) => (some (negative, digits), rest)
    else .ok (none, cs)
  | [] => .ok (none, cs)

/-- Read a number behind its minus sign. -/
def readNumeral (negative : Bool) (cs : List Char) : Except Problem (Numeral × List Char) := do
  let (whole, cs) ← readWhole cs
  let (fraction, cs) ← readFraction cs
  let (exponent, cs) ← readExponent cs
  return (⟨negative, whole, fraction, exponent⟩, cs)

def readWord : (word cs : List Char) → Except Problem (List Char)
  | [], cs => .ok cs
  | _ :: _, [] => .error .truncated
  | w :: word, c :: cs => if w = c then readWord word cs else .error .malformed

/-- A tree with what follows it, or with nothing where it cannot be passed over. -/
abbrev Reading := Tree × Option (List Char)

def readingOfWord (first : Char) (tree : Tree) : Except Problem (List Char) → Reading
  | .ok rest => (tree, some rest)
  | .error p => (.broken (some first) p p, none)

/-- The reading of a number that began with a character. Where the text ends within it, only a
reader can tell; one who passes over it misses a digit. -/
def readingOfNumeral (first : Char) : Except Problem (Numeral × List Char) → Reading
  | .ok (n, rest) => (.number n, some rest)
  | .error p => (.broken (some first) p .malformed, none)

def readingOfString (s : StringRead) : Reading :=
  match s.rest with
  | .ok rest => (.text (s.content.map String.ofList), some rest)
  | .error skip =>
    match s.content with
    | .error read => (.broken (some '"') read skip, none)
    | .ok _ => (.broken (some '"') skip skip, none)

def consItem (t : Tree) : List Tree × Ending × Option (List Char) →
    List Tree × Ending × Option (List Char)
  | (items, ending, rest) => (t :: items, ending, rest)

def consField (k : Except Problem String) (t : Tree) :
    List (Except Problem String × Tree) × Ending × Option (List Char) →
      List (Except Problem String × Tree) × Ending × Option (List Char)
  | (fields, ending, rest) => ((k, t) :: fields, ending, rest)

mutual

/-- Read one value, which may stand behind white space. -/
def readTree : (fuel : Nat) → List Char → Reading
  | 0, _ => (.broken none .truncated .truncated, none)
  | fuel + 1, cs =>
    match skipSpace cs with
    | [] => (.broken none .truncated .truncated, none)
    | c :: rest =>
      if c = 'n' then readingOfWord c .null (readWord "ull".toList rest)
      else if c = 't' then readingOfWord c (.bool true) (readWord "rue".toList rest)
      else if c = 'f' then readingOfWord c (.bool false) (readWord "alse".toList rest)
      else if c = '-' then readingOfNumeral c (readNumeral true rest)
      else if c.isDigit then readingOfNumeral c (readNumeral false (c :: rest))
      else if c = '"' then readingOfString (readString rest)
      else if c = '[' then
        match skipSpace rest with
        | [] => (.list [] (.broken false .truncated), none)
        | ']' :: rest => (.list [] .closed, some rest)
        | rest =>
          let (items, ending, rest) := readItems fuel rest
          (.list items ending, rest)
      else if c = '\x7b' then
        match skipSpace rest with
        | '\x7d' :: rest => (.record [] .closed, some rest)
        | '"' :: rest =>
          let (fields, ending, rest) := readFields fuel rest
          (.record fields ending, rest)
        | [] => (.keyless (.broken none .truncated .truncated) .truncated, none)
        | rest => (.keyless (readTree fuel rest).1 .malformed, none)
      else (.broken (some c) .malformed .malformed, none)

def readItems : (fuel : Nat) → List Char → List Tree × Ending × Option (List Char)
  | 0, _ => ([], .broken false .truncated, none)
  | fuel + 1, cs =>
    match readTree fuel cs with
    | (t, none) => ([t], .closed, none)
    | (t, some rest) =>
      match skipSpace rest with
      | [] => ([t], .broken false .truncated, none)
      | ']' :: rest => ([t], .closed, some rest)
      | ',' :: rest =>
        match skipSpace rest with
        | [] => ([t], .broken true .truncated, none)
        | ']' :: _ => ([t], .broken true .malformed, none)
        | rest => consItem t (readItems fuel rest)
      | _ => ([t], .broken false .malformed, none)

/-- Read fields up to the end of a record, behind the opening quote of a key. -/
def readFields : (fuel : Nat) → List Char →
    List (Except Problem String × Tree) × Ending × Option (List Char)
  | 0, _ => ([], .broken false .truncated, none)
  | fuel + 1, cs =>
    let s := readString cs
    match s.rest with
    | .error skip =>
      match s.content with
      | .error read => ([], .brokenKey read skip, none)
      | .ok _ => ([], .brokenKey skip skip, none)
    | .ok rest =>
      let key := s.content.map String.ofList
      match skipSpace rest with
      | [] => ([(key, .broken none .truncated .truncated)], .closed, none)
      | ':' :: rest =>
        match readTree fuel rest with
        | (t, none) => ([(key, t)], .closed, none)
        | (t, some rest) =>
          match skipSpace rest with
          | [] => ([(key, t)], .broken false .truncated, none)
          | '\x7d' :: rest => ([(key, t)], .closed, some rest)
          | ',' :: rest =>
            match skipSpace rest with
            | [] => ([(key, t)], .broken true .truncated, none)
            | '"' :: rest => consField key t (readFields fuel rest)
            | _ => ([(key, t)], .broken true .malformed, none)
          | _ => ([(key, t)], .broken false .malformed, none)
      | c :: _ => ([(key, .broken (some c) .malformed .malformed)], .closed, none)

end

/-- Read a text: its first value and what follows that. A bracket takes two steps. -/
def readText (text : List Char) : Reading := readTree (2 * text.length + 2) text

/-- Whether nothing but white space follows. -/
def isEnd (rest : List Char) : Bool := rest.all isSpace

/-- The problem that is met at the end of a list or a record that is passed over. -/
def Ending.skipProblem : Ending → Option Problem
  | .closed => none
  | .broken _ p => some p
  | .brokenKey _ skip => some skip

mutual

/-- The first problem that is met when a tree is passed over. -/
def Tree.skipProblem : Tree → Option Problem
  | .null | .bool _ | .number _ | .text _ => none
  | .list items ending => (Tree.skipItems items).or ending.skipProblem
  | .record fields ending => (Tree.skipFields fields).or ending.skipProblem
  | .keyless _ p => some p
  | .broken _ _ skip => some skip

def Tree.skipItems : List Tree → Option Problem
  | [] => none
  | t :: rest => t.skipProblem.or (Tree.skipItems rest)

def Tree.skipFields : List (Except Problem String × Tree) → Option Problem
  | [] => none
  | (_, t) :: rest => t.skipProblem.or (Tree.skipFields rest)

end

/-- The problem that a reader meets at the end of a list or a record. -/
def Ending.readProblem : Ending → Option Problem
  | .closed => none
  | .broken _ p => some p
  | .brokenKey read _ => some read

end GatewayRecipes.Json
