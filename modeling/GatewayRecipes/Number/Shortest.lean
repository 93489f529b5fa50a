/-! The fewest decimal digits that read back as a floating-point number, by exact arithmetic. -/
namespace GatewayRecipes.Number

/-- A positive floating-point number: a mantissa times a power of two. Halfway to its neighbours lie
the ends of the interval of all numbers that read as it. -/
structure Binary where
  mantissa : Nat
  exponent : Int
  /-- Whether the number below is only half as far away as the one above. -/
  narrowBelow : Bool
  deriving Repr, DecidableEq, Inhabited

namespace Binary

/-- The first bit of a mantissa, which is not stored unless the number is very small. -/
def leading : Nat := 0x10000000000000

/-- The number with given bits, but for its sign. -/
def ofBits (bits : UInt64) : Binary :=
  let fraction : Nat := bits.toNat % leading
  let exponent : Nat := bits.toNat / leading % 0x800
  if exponent = 0 then ⟨fraction, -1074, false⟩
  else ⟨leading + fraction, (exponent : Int) - 1075, fraction = 0 && 1 < exponent⟩

/-- The number in quarters of its last place. -/
def middle (b : Binary) : Nat := 4 * b.mantissa

/-- The lower end of the interval, in quarters of the last place. -/
def low (b : Binary) : Nat := b.middle - (if b.narrowBelow then 1 else 2)

/-- The upper end of the interval, in quarters of the last place. -/
def high (b : Binary) : Nat := b.middle + 2

/-- The ends read as the number itself when its mantissa is even. -/
def closed (b : Binary) : Bool := b.mantissa % 2 = 0

/-- A factor that makes powers of two whole. -/
def twos (e : Int) : Nat := Nat.pow 2 e.toNat

/-- A factor that makes powers of ten whole. -/
def tens (e : Int) : Nat := Nat.pow 10 e.toNat

/-- The exponent of ten of the first digit. -/
def magnitude (b : Binary) : Int :=
  let above := b.mantissa * twos b.exponent
  let below := twos (-b.exponent)
  if below ≤ above then ((Nat.toDigits 10 (above / below)).length : Int) - 1
  else
    let n := (Nat.toDigits 10 (below / above)).length - 1
    if below ≤ above * tens n then -(n : Int) else -(n : Int) - 1

end Binary

/-- Multiples of a power of ten, compared with quarters of the last place of a number: both are
taken times a factor. -/
structure Grid where
  step : Nat
  unit : Nat
  deriving Repr, DecidableEq, Inhabited

/-- The multiples of `10 ^ place`. -/
def Grid.at (b : Binary) (place : Int) : Grid :=
  ⟨Binary.tens place * Binary.twos (2 - b.exponent),
    Binary.twos (b.exponent - 2) * Binary.tens (-place)⟩

/-- Whether a multiple reads as the number. -/
def Grid.hits (g : Grid) (b : Binary) (n : Nat) : Bool :=
  let x := n * g.step
  (b.low * g.unit < x || (b.closed && b.low * g.unit = x)) &&
    (x < b.high * g.unit || (b.closed && x = b.high * g.unit))

/-- The nearer of the two neighbours of a number on a grid, as far as they read as it. Of two that
are equally near it is the upper one. -/
def Grid.nearest? (g : Grid) (b : Binary) : Option Nat :=
  let n := b.middle * g.unit / g.step
  match g.hits b n, g.hits b (n + 1) with
  | true, true => some (if 2 * (b.middle * g.unit) < (2 * n + 1) * g.step then n else n + 1)
  | true, false => some n
  | false, true => some (n + 1)
  | false, false => none

/-- Decimal digits `d₁d₂…` and a place of the point: the number `0.d₁d₂… * 10 ^ point`. -/
structure Digits where
  digits : List Char
  point : Int
  deriving Repr, DecidableEq, Inhabited

/-- The digits of `n * 10 ^ place` without zeros at the end. -/
def Digits.ofMultiple (n : Nat) (place : Int) : Digits :=
  let digits := Nat.toDigits 10 n
  ⟨(digits.reverse.dropWhile (· == '0')).reverse, digits.length + place⟩

/-- Look for digits on ever finer grids, the next of which has a given place. -/
def searchDigits (b : Binary) : (fuel : Nat) → (place : Int) → Digits
  | 0, place => .ofMultiple (b.middle * (Grid.at b place).unit / (Grid.at b place).step) place
  | fuel + 1, place =>
    match (Grid.at b place).nearest? b with
    | some n => .ofMultiple n place
    | none => searchDigits b fuel (place - 1)

/-- The fewest digits that read back as a positive number. Seventeen are always enough. -/
def shortest (b : Binary) : Digits := searchDigits b 17 b.magnitude

end GatewayRecipes.Number
