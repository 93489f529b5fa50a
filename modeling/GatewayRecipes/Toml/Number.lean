import GatewayRecipes.Toml.Text

/-! Numbers of TOML. Digits may be set apart by single underscores. -/
namespace GatewayRecipes.Toml

/-- Read digits of some sort, with underscores between them. -/
def readDigits? (p : Char → Bool) : List Char → Option (List Char × List Char)
  | '_' :: _ | [] => none
  | c :: rest =>
    if p c then
      match rest with
      | '_' :: d :: more =>
        if p d then (readDigits? p (d :: more)).map fun (ds, rest) => (c :: ds, rest)
        else none
      | '_' :: [] => none
      | d :: more =>
        if p d then (readDigits? p (d :: more)).map fun (ds, rest) => (c :: ds, rest)
        else some ([c], rest)
      | [] => some ([c], [])
    else none

/-- Read decimal digits, which begin with a zero only if that stands alone. -/
def readWhole? (text : List Char) : Option (List Char × List Char) :=
  match text with
  | '0' :: rest => some (['0'], rest)
  | _ => readDigits? Char.isDigit text

def baseOf? : Char → Option Nat
  | 'x' => some 16
  | 'o' => some 8
  | 'b' => some 2
  | _ => none

/-- Read an integer. Those in another base have no sign. -/
def readInteger? (text : List Char) : Option (Int × List Char) := do
  let based := match text with
    | '0' :: mark :: rest => (baseOf? mark).map fun base => (base, rest)
    | _ => none
  match based with
  | some (base, rest) =>
    let (digits, rest) ← readDigits? (fun c => (Number.digitIn? base c).isSome) rest
    let n ← Number.natural? base digits
    guard (Number.fitsInt64 n)
    return (n, rest)
  | none =>
    let (negative, rest) := Number.splitSign text
    let (digits, rest) ← readWhole? rest
    let n : Int := Number.ofDigits digits
    let n := if negative then -n else n
    guard (Number.fitsInt64 n)
    return (n, rest)

def readFraction? : List Char → Option (Option (List Char) × List Char)
  | '.' :: rest => (readDigits? Char.isDigit rest).map fun (digits, rest) => (some digits, rest)
  | rest => some (none, rest)

def readExponent? (text : List Char) : Option (Option Int × List Char) :=
  match text with
  | c :: rest =>
    if c = 'e' ∨ c = 'E' then
      let (negative, rest) := Number.splitSign rest
      (readDigits? Char.isDigit rest).map fun (digits, rest) =>
        let n : Int := Number.ofDigits digits
        (some (if negative then -n else n), rest)
    else some (none, text)
  | [] => some (none, [])

/-- Read a floating-point number in digits, which has a fraction or an exponent. It may not be too
large. -/
def readDecimal? (text : List Char) : Option (Float × List Char) := do
  let (negative, rest) := Number.splitSign text
  let (whole, rest) ← readWhole? rest
  let (fraction, rest) ← readFraction? rest
  let (exponent, rest) ← readExponent? rest
  guard (fraction.isSome || exponent.isSome)
  let x := (Number.Decimal.mk negative whole (fraction.getD []) (exponent.getD 0)).toFloat
  guard !(x.isInf && !negative)
  return (x, rest)

/-- Read one of the words for what has no digits. -/
def readFloatWord? (text : List Char) : Option (Float × List Char) :=
  let (negative, rest) := Number.splitSign text
  match rest with
  | 'i' :: 'n' :: 'f' :: rest => some (if negative then -1.0 / 0.0 else 1.0 / 0.0, rest)
  | 'n' :: 'a' :: 'n' :: rest => some (0.0 / 0.0, rest)
  | _ => none

end GatewayRecipes.Toml
