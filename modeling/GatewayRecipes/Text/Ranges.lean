/-! Sets of characters given by ascending ranges of code points. -/
namespace GatewayRecipes.Text

/-- Ascending ranges of code points that do not meet, both ends included. -/
abbrev Ranges := List (Nat × Nat)

namespace Ranges

/-- Whether a code point lies in one of the ranges. The search stops at the first range above it. -/
def contains : Ranges → Nat → Bool
  | [], _ => false
  | (low, high) :: rest, n => if n < low then false else n ≤ high || contains rest n

def has (ranges : Ranges) (c : Char) : Bool := ranges.contains c.toNat

end Ranges
end GatewayRecipes.Text
