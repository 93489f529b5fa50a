import GatewayRecipes.Element
import GatewayRecipes.Markup.Entity

/-! Drafts of gateway definitions. A draft can be made into an element and written as a document;
both describe the same definition. -/
namespace GatewayRecipes.Gateway

/-- A header with any of the two sources. -/
structure HeaderDraft where
  name : String
  value : Option String
  expression : Option String
  deriving Repr, DecidableEq, Inhabited

/-- A method: its attributes as they are written, and its headers. -/
structure MethodDraft where
  attributes : List (String × String)
  headers : List HeaderDraft
  deriving Repr, DecidableEq, Inhabited

/-- A gateway: its attributes as they are written, its default headers and its methods. -/
structure GatewayDraft where
  attributes : List (String × String)
  defaultHeaders : List HeaderDraft
  methods : List MethodDraft
  deriving Repr, DecidableEq, Inhabited

def HeaderDraft.attributes (h : HeaderDraft) : List (String × String) :=
  ("name", h.name) :: (h.value.map (("value", ·))).toList ++
    (h.expression.map (("expression", ·))).toList

def HeaderDraft.element (tag : String) (h : HeaderDraft) : Element :=
  (Element.named tag).withAttributes h.attributes

def MethodDraft.element (m : MethodDraft) : Element :=
  ((Element.named "method").withAttributes m.attributes).withChildren
    (m.headers.map (·.element "header"))

def GatewayDraft.element (g : GatewayDraft) : Element :=
  (((Element.named "gateway").withAttributes g.attributes).withChildren
    (g.defaultHeaders.map (·.element "default-header"))).withChildren
      (g.methods.map MethodDraft.element)

/-- A text with the characters that could be taken for markup written as references. -/
def escaped (text : String) : String := String.ofList (Markup.escape text.toList)

def writeAttributes (attributes : List (String × String)) : String :=
  String.join (attributes.map fun (k, v) => " " ++ k ++ "=\"" ++ escaped v ++ "\"")

/-- A tag without content, on a line of its own. -/
def writeEmpty (indent tag : String) (attributes : List (String × String)) : String :=
  indent ++ "<" ++ tag ++ writeAttributes attributes ++ "/>\n"

/-- An element on lines of its own: one tag where there is no content, else a start tag, the lines
of the content and an end tag. -/
def writeElement (indent tag : String) (attributes : List (String × String)) (body : String) :
    String :=
  if body.isEmpty then writeEmpty indent tag attributes
  else indent ++ "<" ++ tag ++ writeAttributes attributes ++ ">\n" ++ body ++ indent ++ "</" ++
    tag ++ ">\n"

def deeper (indent : String) : String := indent ++ "    "

def writeHeaders (indent tag : String) (headers : List HeaderDraft) : String :=
  String.join (headers.map fun h => writeEmpty indent tag h.attributes)

def MethodDraft.write (indent : String) (m : MethodDraft) : String :=
  writeElement indent "method" m.attributes (writeHeaders (deeper indent) "header" m.headers)

/-- A gateway as lines of a document, each behind some indentation. -/
def GatewayDraft.write (indent : String) (g : GatewayDraft) : String :=
  writeElement indent "gateway" g.attributes
    (writeHeaders (deeper indent) "default-header" g.defaultHeaders ++
      String.join (g.methods.map (·.write (deeper indent))))

def writeDocument (body : String) : String :=
  "<?xml version=\"1.0\" encoding=\"UTF-8\"?>\n<beans>\n" ++ body ++ "</beans>\n"

def writeChain (id : Option String) (body : String) : String :=
  let attributes := (id.map (("id", ·))).toList
  "  <chain" ++ writeAttributes attributes ++ ">\n" ++ body ++ "  </chain>\n"

end GatewayRecipes.Gateway
