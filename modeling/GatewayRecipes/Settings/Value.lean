import GatewayRecipes.Number.FloatText
import GatewayRecipes.Table

/-! Settings values, whatever the format in which they were written. -/
namespace GatewayRecipes.Settings

inductive Value
  | null
  | bool (b : Bool)
  | int (n : Int)
  | float (x : Float)
  | text (s : String)
  | list (items : List Value)
  | table (entries : List (String × Value))
  deriving Inhabited

namespace Value

/-- The entries of a table. Other values have none. -/
def entries : Value → Table Value
  | table entries => entries
  | _ => []

/-- The items of a list. Other values have none. -/
def items : Value → List Value
  | list items => items
  | _ => []

/-- The text of a scalar. -/
def text? : Value → Option String
  | text s => some s
  | bool b => some (if b then "true" else "false")
  | int n => some (toString n)
  | float x => some (Number.plainText x)
  | _ => none

end Value
end GatewayRecipes.Settings
