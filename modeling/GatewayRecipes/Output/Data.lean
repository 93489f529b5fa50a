/-! Data in the form in which it is handed to other programs. -/
namespace GatewayRecipes.Output

inductive Data
  | bool (b : Bool)
  | number (n : Nat)
  | text (s : String)
  | list (items : List Data)
  | record (fields : List (String × Data))
  deriving Repr, Inhabited

end GatewayRecipes.Output
