import GatewayRecipes.Table

/-! Construction recipes: what to build, and an ordered table of properties that say what they
are, so that no reader has to guess whether a text names another component. -/
namespace GatewayRecipes

inductive RecipeKind
  /-- The factory that makes a gateway proxy. -/
  | gatewayProxyFactory
  /-- Invocation metadata of one method, or of all methods of a gateway. -/
  | gatewayMethodMetadata
  deriving Repr, DecidableEq, Inhabited

/-- A header or payload expression as it was configured. Nothing is evaluated. -/
inductive Expression
  /-- Used word for word. -/
  | literal (source : String)
  /-- Handed to the expression engine at each call. -/
  | computed (source : String)
  deriving Repr, DecidableEq, Inhabited

mutual

inductive PropertyValue
  /-- A plain scalar. -/
  | value (text : String)
  /-- The name of another component. -/
  | reference (target : String)
  | expression (e : Expression)
  /-- A recipe that is built together with its owner. -/
  | recipe (r : Recipe)
  /-- An ordered table of values. -/
  | map (entries : List (String × PropertyValue))

/-- What to build, and the properties in the order in which they were set. -/
structure Recipe where
  kind : RecipeKind
  properties : List (String × PropertyValue)

end

deriving instance Repr, Inhabited for PropertyValue, Recipe

namespace RecipeKind

def name : RecipeKind → String
  | gatewayProxyFactory => "gateway-proxy-factory"
  | gatewayMethodMetadata => "gateway-method-metadata"

def ofName? : String → Option RecipeKind
  | "gateway-proxy-factory" => some gatewayProxyFactory
  | "gateway-method-metadata" => some gatewayMethodMetadata
  | _ => none

@[simp] theorem ofName?_name (k : RecipeKind) : ofName? k.name = some k := by cases k <;> rfl

theorem name_injective {k k' : RecipeKind} (h : k.name = k'.name) : k = k' := by
  have := congrArg ofName? h
  simpa using this

end RecipeKind

namespace Expression

/-- The configured text, untouched. -/
def source : Expression → String
  | literal s | computed s => s

def isLiteral : Expression → Bool
  | literal _ => true
  | computed _ => false

/-- The word that tells the two sorts of expression apart. -/
def word : Expression → String
  | literal _ => "literal"
  | computed _ => "computed"

end Expression

namespace PropertyValue

def asValue? : PropertyValue → Option String
  | value text => some text
  | _ => none

def asReference? : PropertyValue → Option String
  | reference target => some target
  | _ => none

def asExpression? : PropertyValue → Option Expression
  | expression e => some e
  | _ => none

def asRecipe? : PropertyValue → Option Recipe
  | recipe r => some r
  | _ => none

def asMap? : PropertyValue → Option (Table PropertyValue)
  | map entries => some entries
  | _ => none

end PropertyValue

namespace Recipe

def empty (kind : RecipeKind) : Recipe := ⟨kind, []⟩

/-- Set a property. A repeated name keeps its place and takes the new value. -/
def set (r : Recipe) (name : String) (value : PropertyValue) : Recipe :=
  { r with properties := Table.put r.properties name value }

def set? (r : Recipe) (name : String) : Option PropertyValue → Recipe
  | some value => r.set name value
  | none => r

def get? (r : Recipe) (name : String) : Option PropertyValue := Table.get? r.properties name

def has (r : Recipe) (name : String) : Bool := (r.get? name).isSome

def size (r : Recipe) : Nat := r.properties.length

def isEmpty (r : Recipe) : Bool := r.properties.isEmpty

@[simp] theorem kind_set (r : Recipe) (name : String) (value : PropertyValue) :
    (r.set name value).kind = r.kind := rfl

@[simp] theorem get?_set (r : Recipe) (name name' : String) (value : PropertyValue) :
    (r.set name value).get? name' = if name = name' then some value else r.get? name' := by
  simp [get?, set]

@[simp] theorem kind_set? (r : Recipe) (name : String) (value : Option PropertyValue) :
    (r.set? name value).kind = r.kind := by cases value <;> rfl

@[simp] theorem get?_set? (r : Recipe) (name name' : String) (value : Option PropertyValue) :
    (r.set? name value).get? name' =
      if name = name' then value.or (r.get? name') else r.get? name' := by
  cases value <;> simp [set?]

end Recipe

mutual

/-- Equality up to the order of properties and of map entries. -/
def PropertyValue.sameAs : PropertyValue → PropertyValue → Bool
  | .value a, .value b => a == b
  | .reference a, .reference b => a == b
  | .expression a, .expression b => a == b
  | .recipe a, .recipe b => a.sameAs b
  | .map a, .map b => a.length == b.length && PropertyValue.within a b
  | _, _ => false

/-- Equality up to the order of properties and of map entries. -/
def Recipe.sameAs : Recipe → Recipe → Bool
  | ⟨k₁, p₁⟩, ⟨k₂, p₂⟩ => k₁ == k₂ && p₁.length == p₂.length && PropertyValue.within p₁ p₂

/-- Whether each entry of one table is, up to order, in another. -/
def PropertyValue.within : List (String × PropertyValue) → List (String × PropertyValue) → Bool
  | [], _ => true
  | (k, v) :: rest, entries =>
    (match Table.get? entries k with
      | some w => v.sameAs w
      | none => false) && PropertyValue.within rest entries

end

end GatewayRecipes
