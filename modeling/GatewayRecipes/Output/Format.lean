import GatewayRecipes.Output.Outline
import GatewayRecipes.Yaml.Printer

/-! Output formats, and component definitions in each of them. -/
namespace GatewayRecipes.Output

inductive Format
  | text
  | json
  | yaml
  deriving Repr, DecidableEq, Inhabited

def Format.name : Format → String
  | text => "text"
  | json => "json"
  | yaml => "yaml"

/-- Data in a format for other programs. Text has no such form. -/
def Format.structured? : Format → Data → Option String
  | text, _ => none
  | json, d => some (String.ofList (Json.pretty 0 d))
  | yaml, d => some (Yaml.print d)

/-- Definitions as data: a list of names with recipes. -/
def definitionsData (definitions : Table Recipe) : Data :=
  .list (definitions.map fun (name, r) => .record [("name", .text name), ("recipe", r.data)])

def render (colour : Bool) (format : Format) (definitions : Table Recipe) : String :=
  (format.structured? (definitionsData definitions)).getD (outline colour definitions)

end GatewayRecipes.Output
