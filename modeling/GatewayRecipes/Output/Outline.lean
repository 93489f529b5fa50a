import GatewayRecipes.Output.Style
import GatewayRecipes.Recipe.Data

/-! The outline of component definitions: a block for each component, a line for each property. -/
namespace GatewayRecipes.Output

def indentation (depth : Nat) : List Char := List.replicate (2 * depth) ' '

mutual

def outlineProperty (colour : Bool) (depth : Nat) (name : String) : PropertyValue → List Char
  | .value text =>
    indentation depth ++ name.toList ++ " = ".toList ++ Text.quote text.toList ++ ['\n']
  | .reference target =>
    indentation depth ++ name.toList ++ " -> ".toList ++ paint colour .cyan target ++ ['\n']
  | .expression e =>
    indentation depth ++ name.toList ++ " = ".toList ++ e.display.toList ++ ['\n']
  | .recipe r =>
    indentation depth ++ name.toList ++ ": ".toList ++ r.kind.name.toList ++ '\n' ::
      outlineRecipe colour (depth + 1) r
  | .map [] => indentation depth ++ name.toList ++ [':', ' ', '\x7b', '\x7d', '\n']
  | .map (e :: rest) =>
    indentation depth ++ name.toList ++ ':' :: '\n' ::
      outlineEntries colour (depth + 1) (e :: rest)

def outlineRecipe (colour : Bool) (depth : Nat) : Recipe → List Char
  | ⟨_, properties⟩ => outlineEntries colour depth properties

def outlineEntries (colour : Bool) (depth : Nat) : List (String × PropertyValue) → List Char
  | [] => []
  | (name, value) :: rest =>
    outlineProperty colour depth name value ++ outlineEntries colour depth rest

end

def outlineDefinition (colour : Bool) (name : String) (r : Recipe) : List Char :=
  paint colour .bold name ++ " (".toList ++ r.kind.name.toList ++ ")\n".toList ++
    outlineRecipe colour 1 r

def outline (colour : Bool) (definitions : Table Recipe) : String :=
  String.ofList (definitions.flatMap fun (name, r) => outlineDefinition colour name r)

end GatewayRecipes.Output
