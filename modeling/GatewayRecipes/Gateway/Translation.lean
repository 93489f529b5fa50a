import GatewayRecipes.Gateway.Grammar
import GatewayRecipes.Gateway.Headers
import GatewayRecipes.Log

/-! Translation of a gateway element into the recipe of a gateway proxy factory. -/
namespace GatewayRecipes.Gateway

/-- Copy the eligible attributes as plain values, blank ones included. -/
def copyAttributes (recipe : Recipe) : List (String × String) → Recipe
  | [] => recipe
  | (key, value) :: rest =>
    copyAttributes (if isEligible key then recipe.set (propertyName key) (.value value) else recipe)
      rest

/-- The property value of an attribute, by the kind of its rule. -/
def AttributeKind.property : AttributeKind → String → PropertyValue
  | reference, text => .reference text
  | value, text => .value text

def applyRules (e : Element) (recipe : Recipe) : List AttributeRule → Recipe
  | [] => recipe
  | rule :: rest =>
    applyRules e (recipe.set? rule.property ((e.textAttribute? rule.key).map rule.kind.property))
      rest

/-- Copied attributes and rules: all that does not depend on children. -/
def baseRecipe (e : Element) (rules : List AttributeRule) : Recipe :=
  applyRules e (copyAttributes (.empty .gatewayProxyFactory) e.attributes) rules

/-- Metadata that holds for all methods, where a gateway sets any. -/
def globalMetadata (e : Element) : Except DefinitionError (Option Recipe) := do
  let hasMapper := e.hasText "mapper"
  let payload := e.textAttribute? "default-payload-expression"
  if hasMapper && payload.isSome then
    throw (.conflictingOption "default-payload-expression" .gateway)
  let headers := e.childrenNamed "default-header"
  if hasMapper && !headers.isEmpty then
    throw (.conflictingOption "default-header" .gateway)
  if headers.isEmpty && payload.isNone then
    return none
  let table ← headerExpressions "default-header" .gateway headers
  let metadata := (Recipe.empty .gatewayMethodMetadata).set "headerExpressions" (headerMap table)
  return some (metadata.set? "payloadExpression" (payload.map .value))

/-- Channels and timeouts of a method, empty where the attribute is absent. -/
def methodSettings (method : Element) : Recipe :=
  methodRules.foldl (fun r rule => r.set rule.property (.value (method.attributeD rule.key)))
    (.empty .gatewayMethodMetadata)

/-- The name of a method and its metadata. -/
def methodMetadata (hasMapper : Bool) (method : Element) :
    Except DefinitionError (String × Recipe) := do
  let some name := method.textAttribute? "name"
    | throw (.missingAttribute "method" "name" .gateway)
  let payload := method.textAttribute? "payload-expression"
  if hasMapper && payload.isSome then
    throw (.conflictingOption "payload-expression" (.method name))
  let headers := method.childrenNamed "header"
  if hasMapper && !headers.isEmpty then
    throw (.conflictingOption "header" (.method name))
  let recipe := (methodSettings method).set? "payloadExpression" (payload.map .value)
  if headers.isEmpty then
    return (name, recipe)
  let table ← headerExpressions "header" (.method name) headers
  return (name, recipe.set "headerExpressions" (headerMap table))

/-- Add methods to a table. A repeated name is noted; it keeps its place and takes the last
metadata. -/
def addMethods (hasMapper : Bool) :
    Table Recipe → List Element → Traced DefinitionError (Table Recipe)
  | table, [] => pure table
  | table, method :: rest => do
    let (name, metadata) ← Traced.ofExcept (methodMetadata hasMapper method)
    if table.has name then
      Traced.note (.methodRepeated name)
    addMethods hasMapper (table.put name metadata) rest

def methodTable (e : Element) : Traced DefinitionError (Table Recipe) :=
  addMethods (e.hasText "mapper") [] (e.childrenNamed "method")

/-- The metadata of methods as the value of a property, where there is any method. -/
def methodMap? (table : Table Recipe) : Option PropertyValue :=
  if table.isEmpty then none else some (.map (table.map fun e => (e.1, .recipe e.2)))

def standaloneRecipe (e : Element) : Traced DefinitionError Recipe := do
  let global ← Traced.ofExcept (globalMetadata e)
  let methods ← methodTable e
  return ((baseRecipe e standaloneRules).set? "globalMethodMetadata" (global.map .recipe)).set?
    "methodMetadataMap" (methodMap? methods)

def inlineRecipe (e : Element) : Recipe := baseRecipe e inlineRules

/-- The recipe of an element whose name is known to be right. -/
def recipe (mode : Mode) (e : Element) : Traced DefinitionError Recipe :=
  match mode with
  | .inline => pure (inlineRecipe e)
  | .standalone => standaloneRecipe e

def translate (mode : Mode) (e : Element) : Traced DefinitionError Recipe :=
  if e.name = "gateway" then do
    let r ← recipe mode e
    Traced.note (.gatewayTranslated mode (e.attributeD "id") r.size)
    return r
  else Traced.fail (.unexpectedElement "gateway" e.name)

end GatewayRecipes.Gateway
