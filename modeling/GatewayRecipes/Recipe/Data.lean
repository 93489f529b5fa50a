import GatewayRecipes.Json.Printer
import GatewayRecipes.Recipe.Basic
import GatewayRecipes.Text.Quoted

/-! Recipes as data: every value carries the name of what it is. -/
namespace GatewayRecipes
open GatewayRecipes.Output

/-- A text that reads like the expression. -/
def Expression.display (e : Expression) : String :=
  e.word ++ "(" ++ Text.quoted e.source ++ ")"

def Expression.data (e : Expression) : Data :=
  .record [("kind", .text e.word), ("source", .text e.source)]

def Expression.toJson (e : Expression) : String := String.ofList (Json.compact e.data)

/-- Data with the name of its sort. -/
def taggedData (tag : String) (content : Data) : Data :=
  .record [("type", .text tag), ("value", content)]

mutual

def PropertyValue.data : PropertyValue → Data
  | .value text => taggedData "value" (.text text)
  | .reference target => taggedData "reference" (.text target)
  | .expression e => taggedData "expression" e.data
  | .recipe r => taggedData "recipe" r.data
  | .map entries => taggedData "map" (.record (PropertyValue.fieldData entries))

def Recipe.data : Recipe → Data
  | ⟨kind, properties⟩ =>
    .record
      [("kind", .text kind.name), ("properties", .record (PropertyValue.fieldData properties))]

def PropertyValue.fieldData : List (String × PropertyValue) → List (String × Data)
  | [] => []
  | (k, v) :: rest => (k, v.data) :: PropertyValue.fieldData rest

end

def Recipe.toJson (r : Recipe) : String := String.ofList (Json.compact r.data)

end GatewayRecipes
