import GatewayRecipes.Number.Decimal

/-! Integers in several bases. -/
namespace GatewayRecipes.Number

/-- The value of a digit in a base of at most 16. -/
def digitIn? (base : Nat) (c : Char) : Option Nat :=
  let d :=
    if c.isDigit then some (c.toNat - 48)
    else if 'a' ≤ c ∧ c ≤ 'f' then some (c.toNat - 87)
    else if 'A' ≤ c ∧ c ≤ 'F' then some (c.toNat - 55)
    else none
  d.filter (· < base)

/-- The number that digits write, where there are any and all are digits of the base. -/
def natural? (base : Nat) : List Char → Option Nat
  | [] => none
  | digits => digits.foldlM (fun n c => (digitIn? base c).map (n * base + ·)) 0

def signed? (base : Nat) (text : List Char) : Option Int :=
  match splitSign text with
  | (true, digits) => (natural? base digits).map fun n => -(n : Int)
  | (false, digits) => (natural? base digits).map fun n => (n : Int)

def fitsInt64 (n : Int) : Bool := Int64.minValue.toInt ≤ n && n ≤ Int64.maxValue.toInt

end GatewayRecipes.Number
