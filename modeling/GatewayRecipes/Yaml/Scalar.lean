import GatewayRecipes.Number.Integer

/-! Styles of YAML scalars: when a text may be written plain, in quotes or as a block. -/
namespace GatewayRecipes.Yaml

inductive ScalarStyle
  | plain
  | single
  | double
  | literal
  deriving Repr, DecidableEq, Inhabited

def isBreak (c : Char) : Bool :=
  c == '\r' || c == '\n' || c == '\u0085' || c == '\u2028' || c == '\u2029'

def isPrintable (c : Char) : Bool :=
  let n := c.toNat
  n == 0xa || (0x20 ≤ n && n ≤ 0x7e) || (0xa0 ≤ n && n ≤ 0xd7ff) ||
    (0xe000 ≤ n && n ≤ 0xfffd && n != 0xfeff) || 0x10000 ≤ n

/-- Whether text that starts here begins with white space, a break or nothing. -/
def atGap : List Char → Bool
  | [] => true
  | c :: _ => c == ' ' || c == '\t' || c == '\x00' || isBreak c

/-- What is known of the characters of a scalar. -/
structure Traits where
  /-- It has an indicator that forbids the plain style. -/
  indicators : Bool
  /-- It has a line break. -/
  breaks : Bool
  /-- It has a character that needs an escape. -/
  special : Bool
  /-- It has a space behind a break. -/
  breakSpace : Bool
  /-- It has a break behind a space. -/
  spaceBreak : Bool
  deriving Repr, DecidableEq, Inhabited

/-- Whether a first character, with what follows it, is an indicator. -/
def leadingIndicator (c : Char) (rest : List Char) : Bool :=
  "#,[]\x7b\x7d&*!|>'\"%@`".toList.contains c || ("?:-".toList.contains c && atGap rest)

/-- Whether a later character, with what surrounds it, is an indicator. -/
def innerIndicator (afterGap : Bool) (c : Char) (rest : List Char) : Bool :=
  (c == ':' && atGap rest) || (c == '#' && afterGap)

def hasIndicator : (afterGap : Bool) → List Char → Bool
  | _, [] => false
  | afterGap, c :: rest => innerIndicator afterGap c rest || hasIndicator (atGap [c]) rest

/-- Whether some character of one sort stands directly before one of another sort. -/
def hasPair (first second : Char → Bool) : List Char → Bool
  | a :: b :: rest => (first a && second b) || hasPair first second (b :: rest)
  | _ => false

def traits (text : List Char) : Traits where
  indicators := ["---".toList, "...".toList].any (·.isPrefixOf text) ||
    (match text with
      | [] => false
      | c :: rest => leadingIndicator c rest || hasIndicator (atGap [c]) rest)
  breaks := text.any isBreak
  special := text.any (!isPrintable ·)
  breakSpace := hasPair isBreak (· == ' ') text
  spaceBreak := hasPair (· == ' ') isBreak text

/-- Whether a text begins or ends with one of some characters. -/
def edges (p : Char → Bool) (text : List Char) : Bool :=
  text.head?.any p || text.getLast?.any p

def plainAllowed (text : List Char) : Bool :=
  let t := traits text
  !t.indicators && !t.breaks && !t.special && !edges (· == ' ') text

def singleAllowed (text : List Char) : Bool :=
  let t := traits text
  !t.breakSpace && !t.spaceBreak && !t.special

def literalAllowed (text : List Char) : Bool :=
  let t := traits text
  !text.isEmpty && !t.spaceBreak && !t.special && !(text.getLast?.any (· == ' '))

/-- Digits behind a zero, which are no number. -/
def isZeroPadded (text : List Char) : Bool :=
  match (Number.splitSign text).2 with
  | '0' :: rest => !rest.isEmpty && rest.all Char.isDigit
  | _ => false

/-- The digits of a number in another base, behind its mark. -/
def basedDigits? : List Char → Option (Nat × List Char)
  | '0' :: 'x' :: rest => some (16, rest)
  | '0' :: 'o' :: rest => some (8, rest)
  | '0' :: 'b' :: rest => some (2, rest)
  | _ => none

/-- The integer that a text reads as, in base ten or with the mark of another base. -/
def readsAsInteger? (text : List Char) : Option Int :=
  let (negative, unsigned) := Number.splitSign text
  let digits := match basedDigits? unsigned with
    | some (base, rest) => Number.natural? base rest
    | none => if isZeroPadded text then none else Number.natural? 10 unsigned
  digits.map fun n => if negative then -(n : Int) else n

def readsAsInteger (text : List Char) : Bool :=
  (readsAsInteger? text).any fun n =>
    -0x80000000000000000000000000000000 ≤ n && n < 0x100000000000000000000000000000000

def readsAsFloat (text : List Char) : Bool :=
  let unsigned := match text with
    | '+' :: rest => rest
    | rest => rest
  [".inf", ".Inf", ".INF"].contains (String.ofList unsigned) ||
    ["-.inf", "-.Inf", "-.INF", ".nan", ".NaN", ".NAN"].contains (String.ofList text) ||
    (!(text.head? == some '+' && unsigned.head?.any (fun c => c == '+' || c == '-')) &&
      (Number.decimal? unsigned).any (·.toFloat.isFinite))

/-- The words for nothing and for truth values. Each may be written in capitals or begin with
one. -/
def reservedWords : List String :=
  ["~", "null", "Null", "NULL", "true", "True", "TRUE", "false", "False", "FALSE"]

/-- Whether a text would be read as something else than a text. -/
def isAmbiguous (text : String) : Bool :=
  text.isEmpty || reservedWords.contains text ||
    readsAsInteger text.toList || isZeroPadded text.toList || readsAsFloat text.toList

def styleOf (text : String) : ScalarStyle :=
  let cs := text.toList
  if cs.contains '\n' then
    if literalAllowed cs then .literal else .double
  else if !isAmbiguous text && plainAllowed cs then .plain
  else if singleAllowed cs then .single
  else .double

end GatewayRecipes.Yaml
