import GatewayRecipes.Files
import GatewayRecipes.Gateway.Error
import GatewayRecipes.Markup.Error

/-! Failures of loading definitions, with the steps in which they happened. -/
namespace GatewayRecipes

inductive LoadError
  /-- An element does not translate. -/
  | definition (cause : Gateway.DefinitionError)
  /-- The document cannot be read as a tree of elements. -/
  | document (cause : Markup.DocumentError)
  /-- Two definitions have one component name. -/
  | duplicateComponent (name : String)
  /-- The file cannot be read. -/
  | file (cause : FileError)
  deriving Repr, DecidableEq, Inhabited

def LoadError.message : LoadError → String
  | definition cause => "Definition error: " ++ cause.message
  | document cause => "XML error: " ++ cause.message
  | duplicateComponent name => "component name '" ++ name ++ "' is already in use"
  | file cause => "IO error: " ++ cause.message

/-- An error and what was being done, the outermost step first. -/
structure Report where
  steps : List String
  cause : LoadError
  deriving Repr, DecidableEq, Inhabited

namespace Report

/-- Say within which step an error happened. -/
def within (step : String) (r : Report) : Report := { r with steps := step :: r.steps }

/-- The steps, then the error itself. -/
def chain (r : Report) : List String := r.steps ++ [r.cause.message]

def line (r : Report) : String := ": ".intercalate r.chain

end Report
end GatewayRecipes
