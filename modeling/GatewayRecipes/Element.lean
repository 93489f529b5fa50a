import GatewayRecipes.Table
import GatewayRecipes.Text.Blank

/-! Elements of a configuration document: a local name, attributes and children, both in document
order. Text content is not kept. -/
namespace GatewayRecipes

structure Element where
  name : String
  attributes : Table String
  children : List Element
  deriving Repr, Inhabited

namespace Element

/-- An element with nothing but a name. -/
def named (name : String) : Element := ⟨name, [], []⟩

/-- Set an attribute; a repeated key keeps its place and takes the new value. -/
def withAttribute (e : Element) (key value : String) : Element :=
  { e with attributes := e.attributes.put key value }

def withAttributes (e : Element) (attributes : List (String × String)) : Element :=
  { e with attributes := e.attributes.putAll attributes }

def withChildren (e : Element) (children : List Element) : Element :=
  { e with children := e.children ++ children }

/-- The value of an attribute as written, blank or not. -/
def attribute? (e : Element) (key : String) : Option String := e.attributes.get? key

/-- The value of an attribute, untrimmed, if it has text. -/
def textAttribute? (e : Element) (key : String) : Option String :=
  (e.attribute? key).filter Text.hasText

/-- Whether an attribute is present and has text. -/
def hasText (e : Element) (key : String) : Bool := (e.textAttribute? key).isSome

/-- The children of one name, in document order. -/
def childrenNamed (e : Element) (name : String) : List Element :=
  e.children.filter (·.name == name)

/-- The value of an attribute, or the empty text. -/
def attributeD (e : Element) (key : String) : String := (e.attribute? key).getD ""

mutual

/-- Equality up to the order of attributes. Children are compared in order. -/
def sameAs : Element → Element → Bool
  | ⟨n₁, a₁, c₁⟩, ⟨n₂, a₂, c₂⟩ =>
    n₁ == n₂ && a₁.length == a₂.length && a₁.all (fun (k, v) => a₂.get? k == some v) &&
      allSame c₁ c₂

def allSame : List Element → List Element → Bool
  | [], [] => true
  | a :: as, b :: bs => a.sameAs b && allSame as bs
  | _, _ => false

end

end Element
end GatewayRecipes
