import GatewayRecipes.Markup.Error
import GatewayRecipes.Number.Integer

/-! References in attribute values: five names and numbers. Every character that could be taken for
markup is written as a reference. -/
namespace GatewayRecipes.Markup

/-- Write the characters that could be taken for markup as references. -/
def escapeChar : Char → List Char
  | '<' => "&lt;".toList
  | '>' => "&gt;".toList
  | '&' => "&amp;".toList
  | '\'' => "&apos;".toList
  | '"' => "&quot;".toList
  | c => [c]

def escape (value : List Char) : List Char := value.flatMap escapeChar

/-- The character that a name stands for. -/
def namedEntity? : List Char → Option Char
  | ['l', 't'] => some '<'
  | ['g', 't'] => some '>'
  | ['a', 'm', 'p'] => some '&'
  | ['a', 'p', 'o', 's'] => some '\''
  | ['q', 'u', 'o', 't'] => some '"'
  | _ => none

/-- Read digits of a number of 32 bits after those that make up `value`. -/
def readDigits (base : Nat) : Nat → List Char → Except NumberFault Nat
  | value, [] => .ok value
  | value, c :: rest =>
    match Number.digitIn? base c with
    | none => .error .invalidDigit
    | some d =>
      if value * base + d < UInt32.size then readDigits base (value * base + d) rest
      else .error .tooLarge

/-- Read a number without a sign. -/
def readNumber (base : Nat) : List Char → Except NumberFault Nat
  | [] => .error .empty
  | '+' :: _ | '-' :: _ => .error .sign
  | digits => readDigits base 0 digits

/-- The character of a number, which is hexadecimal after an `x`. -/
def numberedChar (number : List Char) : Except NumberFault Char :=
  let code := match number with
    | 'x' :: digits => readNumber 16 digits
    | digits => readNumber 10 digits
  match code with
  | .error fault => .error fault
  | .ok 0 => .error .zero
  | .ok code => if code.isValidChar then .ok (Char.ofNat code) else .error (.noCharacter code)

/-- The character that a reference stands for, which starts at byte `start` of its value. -/
def resolve (start : Nat) (name : List Char) : Except EntityFault Char :=
  match name with
  | '#' :: number => (numberedChar number).mapError .number
  | _ =>
    match namedEntity? name with
    | some c => .ok c
    | none => .error (.unknown start (start + Text.byteLength name) (String.ofList name))

def endsName (c : Char) : Bool := c == '&' || c == ';'

/-- Replace the references in what follows the first `offset` bytes of a value of `total` bytes. -/
def unescapeFrom (total offset : Nat) : List Char → Except EntityFault (List Char)
  | [] => .ok []
  | '&' :: rest =>
    let name := rest.takeWhile (!endsName ·)
    match _h : rest.dropWhile (!endsName ·) with
    | ';' :: rest' =>
      match resolve (offset + 1) name with
      | .error fault => .error fault
      | .ok c =>
        match unescapeFrom total (offset + 2 + Text.byteLength name) rest' with
        | .error fault => .error fault
        | .ok cs => .ok (c :: cs)
    | _ => .error (.unterminated offset total)
  | c :: rest =>
    match unescapeFrom total (offset + c.utf8Size) rest with
    | .error fault => .error fault
    | .ok cs => .ok (c :: cs)
termination_by value => value.length
decreasing_by
  · have := (List.dropWhile_suffix (l := rest) (!endsName ·)).length_le
    simp only [_h, List.length_cons] at this ⊢
    omega
  · simp

/-- Replace the references in a value. -/
def unescape (value : List Char) : Except EntityFault (List Char) :=
  unescapeFrom (Text.byteLength value) 0 value

end GatewayRecipes.Markup
