/-! Decimal numerals with a fraction and an exponent, and the floating-point numbers they mean. -/
namespace GatewayRecipes.Number

def digit? (c : Char) : Option Nat := if c.isDigit then some (c.toNat - 48) else none

/-- The number that decimal digits write, after those that make up `value`. -/
def digitsFrom (value : Nat) (digits : List Char) : Nat :=
  digits.foldl (fun n c => n * 10 + (c.toNat - 48)) value

def ofDigits (digits : List Char) : Nat := digitsFrom 0 digits

/-- A decimal numeral: a whole part, a fraction and an exponent of ten. -/
structure Decimal where
  negative : Bool
  whole : List Char
  fraction : List Char
  exponent : Int
  deriving Repr, DecidableEq, Inhabited

/-- The floating-point number next to a decimal. An exponent beyond all doubles is cut down to one
that still is. -/
def Decimal.toFloat (d : Decimal) : Float :=
  let mantissa := ofDigits (d.whole ++ d.fraction)
  let exponent := d.exponent - d.fraction.length
  let digits : Int := d.whole.length + d.fraction.length
  let size : Float :=
    if mantissa = 0 then 0.0
    else if exponent > 400 then 1.0 / 0.0
    else if exponent + digits < -400 then 0.0
    else if exponent ≥ 0 then Float.ofScientific mantissa false exponent.toNat
    else Float.ofScientific mantissa true (-exponent).toNat
  if d.negative then -size else size

/-- Pass over a sign, which tells whether a number is negative. -/
def splitSign : List Char → Bool × List Char
  | '-' :: rest => (true, rest)
  | '+' :: rest => (false, rest)
  | rest => (false, rest)

/-- The exponent that text behind the digits writes, where it is an exponent or nothing. -/
def exponent? : List Char → Option Int
  | [] => some 0
  | c :: rest =>
    if c = 'e' ∨ c = 'E' then
      let (negative, digits) := splitSign rest
      if digits.isEmpty || !digits.all Char.isDigit then none
      else some (if negative then -(ofDigits digits : Int) else ofDigits digits)
    else none

/-- Read a decimal: an optional sign, digits with an optional point among or around them, and an
optional exponent. -/
def decimal? (text : List Char) : Option Decimal :=
  let (negative, rest) := splitSign text
  let whole := rest.takeWhile Char.isDigit
  let (fraction, rest) := match rest.dropWhile Char.isDigit with
    | '.' :: more => (more.takeWhile Char.isDigit, more.dropWhile Char.isDigit)
    | more => ([], more)
  if whole.isEmpty && fraction.isEmpty then none
  else (exponent? rest).map fun e => ⟨negative, whole, fraction, e⟩

/-- The words for floating-point numbers without digits, in any case of their letters. -/
def floatWord? (text : List Char) : Option Float :=
  let (negative, rest) := splitSign text
  let size? := match String.ofList (rest.map Char.toLower) with
    | "inf" | "infinity" => some (1.0 / 0.0)
    | "nan" => some (0.0 / 0.0)
    | _ => none
  size?.map fun x => if negative then -x else x

/-- The floating-point number that a text writes, in digits or as a word. -/
def float? (text : List Char) : Option Float :=
  ((decimal? text).map (·.toFloat)).or (floatWord? text)

end GatewayRecipes.Number
