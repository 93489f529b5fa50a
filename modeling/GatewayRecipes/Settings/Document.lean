import GatewayRecipes.Json.Number
import GatewayRecipes.Settings.Format
import GatewayRecipes.Settings.Value
import GatewayRecipes.Toml.Document
import GatewayRecipes.Yaml.Node

/-! The entries of a settings text in one of the formats. A text must hold a single table. -/
namespace GatewayRecipes.Settings

/-- The value of a JSON number: an integer of 64 bits with a sign, or a floating-point number. -/
def ofNumeral? (n : Json.Numeral) : Option Value :=
  n.number?.map fun
    | .int n => if Number.fitsInt64 n then .int n else .float (Float.ofInt n)
    | .float x => .float x

mutual

/-- The value of JSON that is well-formed and nested no deeper than a number of levels. -/
def ofTree? : (depth : Nat) → Json.Tree → Option Value
  | _, .null => some .null
  | _, .bool b => some (.bool b)
  | _, .number n => ofNumeral? n
  | _, .text (.ok s) => some (.text s)
  | depth + 1, .list items .closed => (ofTrees? depth items).map .list
  | depth + 1, .record fields .closed =>
    (ofFields? depth fields).map fun t => .table (Table.ofList t)
  | _, _ => none

def ofTrees? : (depth : Nat) → List Json.Tree → Option (List Value)
  | _, [] => some []
  | depth, t :: rest => do return (← ofTree? depth t) :: (← ofTrees? depth rest)

def ofFields? : (depth : Nat) → List (Except Json.Problem String × Json.Tree) →
    Option (List (String × Value))
  | _, [] => some []
  | depth, (.ok key, t) :: rest => do
    return (key, ← ofTree? depth t) :: (← ofFields? depth rest)
  | _, (.error _, _) :: _ => none

end

def jsonDepth : Nat := 127

def ofJson? (text : List Char) : Option Value :=
  match Json.readText text with
  | (t, some rest) => if Json.isEnd rest then ofTree? jsonDepth t else none
  | (_, none) => none

/-- The value of a YAML scalar. Words for infinities and for what is not a number have no value
where they begin with a point. -/
def ofScalar? : Yaml.Scalar → Option Value
  | .null => some .null
  | .bool b => some (.bool b)
  | .int n => some (.int n)
  | .real written => (Number.float? written.toList).map .float
  | .text s => some (.text s)

mutual

/-- The value of a YAML node. Keys become texts, and must be scalars. -/
def ofNode? : Yaml.Node → Option Value
  | .scalar s => ofScalar? s
  | .list items => (ofNodes? items).map .list
  | .record entries => (ofEntries? entries).map fun t => .table (Table.ofList t)
  | .unknown => some .null

def ofNodes? : List Yaml.Node → Option (List Value)
  | [] => some []
  | n :: rest => do return (← ofNode? n) :: (← ofNodes? rest)

def ofEntries? : List (Yaml.Node × Yaml.Node) → Option (List (String × Value))
  | [] => some []
  | (key, n) :: rest => do return (← key.key?, ← ofNode? n) :: (← ofEntries? rest)

end

/-- The value of a YAML text of at most one document. No document is an empty table. -/
def ofYaml? (text : List Char) : Option Value := do
  match ← Yaml.documents? text with
  | [] => return .table []
  | [n] => ofNode? n
  | _ => none

def Value.entries? : Value → Option (Table Value)
  | .table t => some t
  | _ => none

def Format.read? (format : Format) (text : String) : Option (Table Value) :=
  match format with
  | .json => (ofJson? text.toList).bind Value.entries?
  | .yaml => (ofYaml? text.toList).bind Value.entries?
  | .toml => Toml.document? text.toList

end GatewayRecipes.Settings
