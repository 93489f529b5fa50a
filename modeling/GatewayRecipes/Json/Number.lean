import GatewayRecipes.Json.Tree

/-! The numbers that JSON numerals stand for: integers as far as they fit into 64 bits, else
floating-point numbers. -/
namespace GatewayRecipes.Json

inductive Number
  | int (n : Int)
  | float (x : Float)

/-- Significant digits as an integer of 64 bits, and the exponent of ten that belongs to it. -/
structure Scaled where
  mantissa : Nat
  exponent : Int
  deriving Repr, DecidableEq, Inhabited

/-- The mantissa with one more digit, if it still fits. -/
def appendDigit? (mantissa : Nat) (c : Char) : Option Nat :=
  let n := mantissa * 10 + (c.toNat - 48)
  if n < UInt64.size then some n else none

/-- Take the digits of a whole part. Those that no longer fit only count. -/
def takeWhole (mantissa : Nat) : List Char → Scaled
  | [] => ⟨mantissa, 0⟩
  | c :: rest =>
    match appendDigit? mantissa c with
    | some n => takeWhole n rest
    | none => ⟨mantissa, (c :: rest).length⟩

/-- Take the digits of a fraction, up to the first that does not fit. -/
def takeFraction (s : Scaled) : List Char → Scaled
  | [] => s
  | c :: rest =>
    match appendDigit? s.mantissa c with
    | some n => takeFraction ⟨n, s.exponent - 1⟩ rest
    | none => s

/-- Multiply or divide by a power of ten. Powers beyond the largest are taken in several steps.
There is no result where it would be infinite. -/
def scale (fuel : Nat) (x : Float) (exponent : Int) : Option Float :=
  if exponent.natAbs ≤ 308 then
    let power := Float.ofScientific 1 false exponent.natAbs
    if exponent ≥ 0 then
      let y := x * power
      if y.isInf then none else some y
    else some (x / power)
  else if x == 0.0 then some x
  else if exponent ≥ 0 then none
  else
    match fuel with
    | 0 => some 0.0
    | fuel + 1 => scale fuel (x / 1e308) (exponent + 308)

/-- Whether a numeral has neither a fraction nor an exponent. -/
def Numeral.isWhole (n : Numeral) : Bool := n.fraction.isNone && n.exponent.isNone

/-- The significant digits of a numeral, with its exponent where that fits into 32 bits. -/
def Numeral.scaled (n : Numeral) : Scaled :=
  let s := takeFraction (takeWhole 0 n.whole) (n.fraction.getD [])
  match n.exponent with
  | none => s
  | some (negative, digits) =>
    let e : Int := GatewayRecipes.Number.ofDigits digits
    let sum := if negative then s.exponent - e else s.exponent + e
    ⟨s.mantissa, max (-0x80000000) (min 0x80000000 sum)⟩

def Numeral.float? (n : Numeral) : Option Float :=
  let s := n.scaled
  (scale 8 s.mantissa.toFloat s.exponent).map fun x => if n.negative then -x else x

def Numeral.number? (n : Numeral) : Option Number :=
  let whole := GatewayRecipes.Number.ofDigits n.whole
  if n.isWhole && n.negative && whole != 0 && whole ≤ 0x8000000000000000 then
    some (.int (-(whole : Int)))
  else if n.isWhole && !n.negative && whole < UInt64.size then some (.int whole)
  else n.float?.map .float

def Numeral.isFinite (n : Numeral) : Bool := n.number?.isSome

end GatewayRecipes.Json
