import GatewayRecipes.Gateway.Translation

/-! Parsers of definition elements. -/
namespace GatewayRecipes

/-- Translates the elements of one name into recipes of one kind. -/
structure DefinitionParser where
  /-- The local name of the elements. -/
  element : String
  /-- The kind of the recipes, after which components without an id are named. -/
  kind : RecipeKind
  parse : Element → Mode → Traced Gateway.DefinitionError Recipe

namespace DefinitionParser

def gateway : DefinitionParser where
  element := "gateway"
  kind := .gatewayProxyFactory
  parse e mode := Gateway.translate mode e

/-- A parser that reports every call before it leaves it to another one. -/
def recording (inner : DefinitionParser) : DefinitionParser :=
  { inner with
    parse := fun e mode => do
      Traced.note (.parseCalled e.name (e.attribute? "id") mode)
      inner.parse e mode }

/-- A parser whose recipes say that they are its own, and in which mode they were made. -/
def marking (element : String) (kind : RecipeKind) (marker : String) : DefinitionParser where
  element := element
  kind := kind
  parse _ mode :=
    pure (((Recipe.empty kind).set "marker" (.value marker)).set "mode" (.value mode.name))

end DefinitionParser

/-- The calls that notices report: the id attribute of the element as written, and the mode. -/
def recordedCalls (notices : List Notice) : List (Option String × Mode) :=
  notices.filterMap fun
    | .parseCalled _ id mode => some (id, mode)
    | _ => none

@[simp] theorem recordedCalls_nil : recordedCalls [] = [] := rfl

@[simp] theorem recordedCalls_append (a b : List Notice) :
    recordedCalls (a ++ b) = recordedCalls a ++ recordedCalls b := by simp [recordedCalls]

end GatewayRecipes
