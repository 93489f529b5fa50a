import GatewayRecipes.Gateway.Grammar
import GatewayRecipes.Output.Data
import GatewayRecipes.Output.Style

/-! The attribute grammar as data and as a table for people. -/
namespace GatewayRecipes.Output
open Gateway (AttributeKind AttributeRule)

structure GrammarSection where
  title : String
  rules : List AttributeRule
  deriving Repr, DecidableEq, Inhabited

def grammar : List GrammarSection :=
  [⟨"gateway", Gateway.standaloneRules⟩, ⟨"gateway inside chain", Gateway.inlineRules⟩,
    ⟨"method", Gateway.methodRules⟩]

def kindData : AttributeKind → Data
  | .reference => .text "reference"
  | .value => .text "value"

def ruleData (r : AttributeRule) : Data :=
  .record [("attribute", .text r.key), ("property", .text r.property), ("kind", kindData r.kind)]

def grammarData (sections : List GrammarSection) : Data :=
  .list (sections.map fun s =>
    .record [("title", .text s.title), ("rules", .list (s.rules.map ruleData))])

def padRight (width : Nat) (text : String) : String :=
  text ++ String.ofList (List.replicate (width - text.length) ' ')

def version : String := "0.1.0"

def ruleLine (colour : Bool) (r : AttributeRule) : String :=
  "    " ++ padRight 28 r.key ++ " " ++
    String.ofList (paint colour .cyan (padRight 24 r.property)) ++ " " ++ r.kind.name

def sectionLines (colour : Bool) (s : GrammarSection) : List String :=
  ("  " ++ String.ofList (paint colour .bold s.title)) :: s.rules.map (ruleLine colour) ++ [""]

/-- What the rules do not say. -/
def grammarNotes : List String :=
  ["    Other gateway attributes are copied as camelCase values.",
    "    'mapper' excludes 'default-payload-expression', 'default-header', a method's " ++
      "'payload-expression' and 'header'.",
    "    'method' requires 'name'; headers need exactly one of 'value' or 'expression'."]

def grammarLines (colour : Bool) (sections : List GrammarSection) : List String :=
  ["", "  gatedef " ++ String.ofList (paint colour .yellow version), ""] ++
    sections.flatMap (sectionLines colour) ++
    ("  " ++ String.ofList (paint colour .bold "Notes")) :: grammarNotes ++ [""]

end GatewayRecipes.Output
