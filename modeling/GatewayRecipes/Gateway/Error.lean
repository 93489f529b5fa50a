/-! Failures of a gateway definition. All are fatal: an element translates completely or not at
all. -/
namespace GatewayRecipes.Gateway

/-- Where inside a gateway element an error was found. -/
inductive Scope
  /-- Attributes and default headers of the gateway itself. -/
  | gateway
  /-- A method, by its name. -/
  | method (name : String)
  deriving Repr, DecidableEq, Inhabited

/-- Which header sources were found where exactly one is required. -/
inductive SourceConflict
  | neither
  | both
  deriving Repr, DecidableEq, Inhabited

inductive DefinitionError
  /-- An option supplies payload or headers although a mapper does so already. -/
  | conflictingOption (option : String) (scope : Scope)
  /-- A header has no source, or two. -/
  | ambiguousHeaderSource (header : String) (scope : Scope) (found : SourceConflict)
  /-- A required attribute is absent or blank. -/
  | missingAttribute (element key : String) (scope : Scope)
  /-- The element is none that is translated here. -/
  | unexpectedElement (expected found : String)
  deriving Repr, DecidableEq, Inhabited

def Scope.text : Scope → String
  | gateway => "gateway level"
  | method name => "method '" ++ name ++ "'"

def SourceConflict.text : SourceConflict → String
  | neither => "neither was set"
  | both => "both were set"

def DefinitionError.message : DefinitionError → String
  | conflictingOption option scope =>
    "'" ++ option ++ "' is not allowed when a 'mapper' is provided (" ++ scope.text ++ ")"
  | ambiguousHeaderSource header scope found =>
    "exactly one of 'value' or 'expression' is required on header '" ++ header ++ "' (" ++
      scope.text ++ "), but " ++ found.text
  | missingAttribute element key scope =>
    "<" ++ element ++ "> requires a non-empty '" ++ key ++ "' attribute (" ++ scope.text ++ ")"
  | unexpectedElement expected found =>
    "expected a <" ++ expected ++ "> element, found <" ++ found ++ ">"

end GatewayRecipes.Gateway
