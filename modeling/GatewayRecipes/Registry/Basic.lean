import GatewayRecipes.Markup.Document
import GatewayRecipes.Registry.Error
import GatewayRecipes.Registry.Parser

/-! The registry of component definitions. Loading a document finds the elements that a parser
handles and keeps their recipes under component names. A document is loaded as a whole or not at
all. -/
namespace GatewayRecipes

/-- Parsers, the one added last first, and the recipes by component name in the order in which
they were registered. -/
structure Registry where
  parsers : List DefinitionParser
  definitions : Table Recipe

namespace Registry

/-- A registry without parsers, in which every element is passed over. -/
def empty : Registry := ⟨[], []⟩

/-- Add a parser. It goes before earlier ones for the same element name. -/
def withParser (r : Registry) (p : DefinitionParser) : Registry :=
  { r with parsers := p :: r.parsers }

def standard : Registry := empty.withParser .gateway

def parserFor? (r : Registry) (name : String) : Option DefinitionParser :=
  r.parsers.find? (·.element == name)

def get? (r : Registry) (name : String) : Option Recipe := r.definitions.get? name

/-- Component names in the order in which they were registered. -/
def names (r : Registry) : List String := r.definitions.keys

def size (r : Registry) : Nat := r.definitions.length

/-- The tag of an element with its id, if that has text. -/
def describe (e : Element) : String :=
  match e.textAttribute? "id" with
  | some id => "<" ++ e.name ++ " id=\"" ++ id ++ "\">"
  | none => "<" ++ e.name ++ ">"

/-- Where an element stands: its parent, and its place among the children of that. -/
structure Position where
  parent : Option Element
  index : Nat

/-- The chain that an element stands directly in. -/
def Position.chain? (p : Position) : Option Element := p.parent.filter (·.name == "chain")

def Position.mode (p : Position) : Mode := if p.chain?.isSome then .inline else .standalone

/-- The id of the chain that an element stands directly in, if that has text. -/
def Position.chainId? (p : Position) : Option String := p.chain?.bind (·.textAttribute? "id")

/-- Whether a name belongs to a registered or to a staged definition. -/
def isTaken (r : Registry) (staged : Table Recipe) (name : String) : Bool :=
  r.definitions.has name || staged.has name

/-- The `n`-th name for components of a kind that have none. -/
def counted (kind : RecipeKind) (n : Nat) : String := kind.name ++ "#" ++ toString n

/-- The first name from `n` on that is not taken, among `fuel` many. -/
def firstFree (taken : String → Bool) (kind : RecipeKind) : (fuel n : Nat) → String
  | 0, n => counted kind n
  | fuel + 1, n =>
    if taken (counted kind n) then firstFree taken kind fuel (n + 1) else counted kind n

/-- The lowest counted name that is not taken. One more name than there are definitions is enough
to find it. -/
def generatedName (r : Registry) (staged : Table Recipe) (kind : RecipeKind) : String :=
  firstFree (r.isTaken staged) kind (r.definitions.length + staged.length) 0

/-- The component name of an element: its id or a generated name; in a chain with an id, that of
the chain with the id of the element or its place. -/
def componentName (r : Registry) (staged : Table Recipe) (kind : RecipeKind) (position : Position)
    (e : Element) : String :=
  match position.chainId?, e.textAttribute? "id" with
  | some chain, some id => chain ++ "$child." ++ id
  | some chain, none => chain ++ "$child#" ++ toString position.index
  | none, some id => id
  | none, none => r.generatedName staged kind

/-- Parse an element and stage its recipe under its component name. -/
def stage (r : Registry) (p : DefinitionParser) (position : Position) (e : Element)
    (staged : Table Recipe) : Traced Report (Table Recipe) := do
  let recipe ← (p.parse e position.mode).mapError fun cause =>
    ⟨["parsing " ++ describe e], .definition cause⟩
  let name := r.componentName staged p.kind position e
  if r.isTaken staged name then
    Traced.fail ⟨["registering " ++ describe e], .duplicateComponent name⟩
  else do
    Traced.note (.definitionRegistered name recipe.kind position.mode)
    return staged.put name recipe

mutual

/-- Stage an element if there is a parser for it, else what is below it. -/
def walk (r : Registry) (position : Position) (staged : Table Recipe) :
    Element → Traced Report (Table Recipe)
  | ⟨name, attributes, children⟩ =>
    let e : Element := ⟨name, attributes, children⟩
    match r.parserFor? name with
    | some p => r.stage p position e staged
    | none => r.walkChildren e 0 staged children

/-- Walk children of an element, the first of which has a given place. -/
def walkChildren (r : Registry) (parent : Element) (index : Nat) (staged : Table Recipe) :
    List Element → Traced Report (Table Recipe)
  | [] => pure staged
  | child :: rest => do
    let staged ← r.walk ⟨some parent, index⟩ staged child
    r.walkChildren parent (index + 1) staged rest

end

/-- Load all definitions of a tree. The answer is the registry after it and their number. -/
def load (r : Registry) (root : Element) : Traced Report (Registry × Nat) := do
  let staged ← r.walk ⟨none, 0⟩ [] root
  let loaded : Registry := { r with definitions := r.definitions.putAll staged }
  Traced.note (.definitionsLoaded staged.length loaded.size)
  return (loaded, staged.length)

def loadDocument (r : Registry) (document : String) : Traced Report (Registry × Nat) :=
  match Markup.parseDocument document with
  | .ok root => r.load root
  | .error cause => Traced.fail ⟨[], .document cause⟩

def loadFile (r : Registry) (read : FileReader) (path : String) : Traced Report (Registry × Nat) :=
  match read path with
  | .error cause => Traced.fail ⟨["reading " ++ path], .file cause⟩
  | .ok content =>
    match Markup.parseBytes content with
    | .ok root => (r.load root).mapError (·.within ("loading " ++ path))
    | .error cause => Traced.fail ⟨["loading " ++ path], .document cause⟩

/-- The registry after a load: the loaded one, or the old one after a failure. -/
def after (r : Registry) (outcome : Traced Report (Registry × Nat)) : Registry :=
  match outcome.result with
  | .ok (loaded, _) => loaded
  | .error _ => r

end Registry
end GatewayRecipes
