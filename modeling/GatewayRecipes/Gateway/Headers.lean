import GatewayRecipes.Element
import GatewayRecipes.Gateway.Error
import GatewayRecipes.Recipe.Basic

/-! Header expressions: each header has a name and exactly one source. -/
namespace GatewayRecipes.Gateway

/-- The single source of a header: its value, taken word for word, or its expression. -/
def headerSource (header : Element) (name : String) (scope : Scope) :
    Except DefinitionError Expression :=
  match header.textAttribute? "value", header.textAttribute? "expression" with
  | some value, none => .ok (.literal value)
  | none, some expression => .ok (.computed expression)
  | none, none => .error (.ambiguousHeaderSource name scope .neither)
  | some _, some _ => .error (.ambiguousHeaderSource name scope .both)

/-- The name of a header with its source. `tag` is the element name that errors speak of. -/
def headerEntry (tag : String) (scope : Scope) (header : Element) :
    Except DefinitionError (String × Expression) :=
  match header.textAttribute? "name" with
  | none => .error (.missingAttribute tag "name" scope)
  | some name => (headerSource header name scope).map fun source => (name, source)

/-- Add headers to a table. The first bad header is an error, also if a later one of its name
would have taken its place. -/
def addHeaders (tag : String) (scope : Scope) :
    Table Expression → List Element → Except DefinitionError (Table Expression)
  | table, [] => .ok table
  | table, header :: rest =>
    match headerEntry tag scope header with
    | .error e => .error e
    | .ok (name, source) => addHeaders tag scope (table.put name source) rest

/-- The table of header expressions. A repeated name keeps its first place and takes the last
source. -/
def headerExpressions (tag : String) (scope : Scope) (headers : List Element) :
    Except DefinitionError (Table Expression) :=
  addHeaders tag scope [] headers

def headerMap (table : Table Expression) : PropertyValue :=
  .map (table.map fun e => (e.1, .expression e.2))

end GatewayRecipes.Gateway
