import GatewayRecipes.Element
import GatewayRecipes.Markup.Event

/-! The element tree of a document, built from its events. -/
namespace GatewayRecipes.Markup

/-- The deepest nesting of elements, the root included. -/
def maxDepth : Nat := 256

/-- A tree under construction: the open elements, the innermost first and each with its children in
reverse order, and the root once it is closed. -/
structure Builder where
  opened : List Element
  root : Option Element
  deriving Repr, Inhabited

namespace Builder

def initial : Builder := ⟨[], none⟩

/-- The element of a tag, whose malformed attributes are reported at `position`. -/
def elementOf (position : Nat) (inside : List Char) : Except DocumentError Element :=
  match tagAttributes inside with
  | .ok attributes => .ok ((Element.named (tagName inside)).withAttributes attributes)
  | .error fault => .error (.malformed position (.badAttributes fault))

/-- Put a closed element into the innermost open one, or at the root. -/
def attach (b : Builder) (e : Element) : Except DocumentError Builder :=
  match b.opened with
  | parent :: outer =>
    .ok { b with opened := { parent with children := e :: parent.children } :: outer }
  | [] =>
    match b.root with
    | some first => .error (.multipleRoots first.name e.name)
    | none => .ok { b with root := some e }

/-- An element whose children were collected in reverse order. -/
def finished (e : Element) : Element := { e with children := e.children.reverse }

/-- Take one event. The depth is checked before attributes are looked at. -/
def step (b : Builder) (s : Step) : Except DocumentError Builder :=
  match s.event with
  | .start inside =>
    if b.opened.length < maxDepth then
      (elementOf s.position inside).map fun e => { b with opened := e :: b.opened }
    else .error (.tooDeep maxDepth)
  | .empty inside =>
    if b.opened.length < maxDepth then
      match elementOf s.position inside with
      | .ok e => b.attach e
      | .error error => .error error
    else .error (.tooDeep maxDepth)
  | .stop =>
    match b.opened with
    | e :: outer => attach { b with opened := outer } (finished e)
    | [] => .ok b
  | .other => .ok b
  | .fault position cause => .error (.malformed position cause)

/-- Take events one after the other. -/
def run (b : Builder) : List Step → Except DocumentError Builder
  | [] => .ok b
  | s :: rest =>
    match b.step s with
    | .ok b' => b'.run rest
    | .error error => .error error

/-- The tree at the end of a document. -/
def finish (b : Builder) : Except DocumentError Element :=
  match b.opened with
  | e :: _ => .error (.unclosedElement e.name)
  | [] =>
    match b.root with
    | some e => .ok e
    | none => .error .emptyDocument

end Builder

def assemble (events : List Step) : Except DocumentError Element :=
  match Builder.initial.run events with
  | .ok b => b.finish
  | .error error => .error error

def parseDocument (document : String) : Except DocumentError Element :=
  assemble (eventsOf document.toList)

def parseBytes (bytes : List UInt8) : Except DocumentError Element :=
  match Text.decodeUtf8 bytes with
  | .ok cs => assemble (eventsOf cs)
  | .error fault => .error (.malformed fault.validUpTo (.notUtf8 fault))

end GatewayRecipes.Markup
