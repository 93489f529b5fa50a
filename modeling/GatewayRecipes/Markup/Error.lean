import GatewayRecipes.Text.Utf8

/-! Failures of reading a document, by their causes. -/
namespace GatewayRecipes.Markup

inductive NumberFault
  | sign
  | empty
  | invalidDigit
  | tooLarge
  | zero
  /-- The number of no character. -/
  | noCharacter (code : Nat)
  deriving Repr, DecidableEq, Inhabited

/-- What is wrong with a reference in an attribute value. Offsets are bytes of the value. -/
inductive EntityFault
  | unterminated (start stop : Nat)
  | number (fault : NumberFault)
  | unknown (start stop : Nat) (name : String)
  deriving Repr, DecidableEq, Inhabited

/-- What is wrong with the attributes of a tag. Offsets are bytes of the tag. -/
inductive AttributeFault
  /-- A key ends without an equals sign. -/
  | expectedEq (offset : Nat)
  /-- The tag ends after an equals sign. -/
  | expectedValue (offset : Nat)
  /-- A value without quotes. -/
  | unquotedValue (offset : Nat)
  /-- The tag ends within a value. -/
  | expectedQuote (offset : Nat) (quote : Char)
  /-- A key that came before. -/
  | duplicated (offset previous : Nat)
  /-- A value with a bad reference. -/
  | badValue (key : String) (fault : EntityFault)
  deriving Repr, DecidableEq, Inhabited

/-- Markup that the end of input cuts off. -/
inductive Unclosed
  | tag
  | instruction
  | comment
  | cdata
  | doctype
  deriving Repr, DecidableEq, Inhabited

inductive Malformation
  | notUtf8 (fault : Text.Utf8Fault)
  | unclosed (what : Unclosed)
  | unknownMarkup
  | namelessDoctype
  | mismatchedEnd (expected found : String)
  | unmatchedEnd (found : String)
  | badAttributes (fault : AttributeFault)
  deriving Repr, DecidableEq, Inhabited

inductive DocumentError
  | malformed (position : Nat) (cause : Malformation)
  /-- There is no element at all. -/
  | emptyDocument
  /-- A second top-level element follows the root. -/
  | multipleRoots (first second : String)
  /-- Elements are nested too deep. -/
  | tooDeep (limit : Nat)
  /-- The input ends while an element is open. -/
  | unclosedElement (name : String)
  deriving Repr, DecidableEq, Inhabited

def NumberFault.message : NumberFault → String
  | sign => "unexpected number sign"
  | empty => "cannot parse integer from empty string"
  | invalidDigit => "invalid digit found in string"
  | tooLarge => "number too large to fit in target type"
  | zero => "0x0 character is not permitted in XML"
  | noCharacter code => "`" ++ toString code ++ "` is not a valid codepoint"

def spanText (start stop : Nat) : String := toString start ++ ".." ++ toString stop

def EntityFault.message : EntityFault → String
  | unterminated start stop =>
    "Error while escaping character at range " ++ spanText start stop ++
      ": Cannot find ';' after '&'"
  | number fault => "invalid character reference: " ++ fault.message
  | unknown start stop name =>
    "at " ++ spanText start stop ++ ": unrecognized entity `" ++ name ++ "`"

/-- The beginning of a message about a place in a tag. -/
def positionText (offset : Nat) : String := "position " ++ toString offset ++ ": "

def AttributeFault.message : AttributeFault → String
  | expectedEq offset =>
    positionText offset ++ "attribute key must be directly followed by `=` or space"
  | expectedValue offset => positionText offset ++ "`=` must be followed by an attribute value"
  | unquotedValue offset =>
    positionText offset ++ "attribute value must be enclosed in `\"` or `'`"
  | expectedQuote offset quote =>
    positionText offset ++ "missing closing quote `" ++ toString quote ++ "` in attribute value"
  | duplicated offset previous =>
    positionText offset ++ "duplicated attribute, previous declaration at position " ++
      toString previous
  | badValue key fault => "attribute '" ++ key ++ "': " ++ fault.message

def Unclosed.message : Unclosed → String
  | tag => "tag not closed: `>`"
  | instruction => "processing instruction or xml declaration not closed: `?>`"
  | comment => "comment not closed: `-->`"
  | cdata => "CDATA not closed: `]]>`"
  | doctype => "DOCTYPE not closed: `>`"

def Malformation.message : Malformation → String
  | notUtf8 fault => "document is not valid UTF-8: " ++ fault.message
  | unclosed what => "syntax error: " ++ what.message ++ " not found before end of input"
  | unknownMarkup => "syntax error: unknown or missed symbol in markup"
  | namelessDoctype =>
    "ill-formed document: `<!DOCTYPE>` declaration does not contain a name of a document type"
  | mismatchedEnd expected found =>
    "ill-formed document: expected `</" ++ expected ++ ">`, but `</" ++ found ++ ">` was found"
  | unmatchedEnd found =>
    "ill-formed document: close tag `</" ++ found ++ ">` does not match any open tag"
  | badAttributes fault => fault.message

def DocumentError.message : DocumentError → String
  | malformed position cause =>
    "malformed XML at byte " ++ toString position ++ ": " ++ cause.message
  | emptyDocument => "document has no root element"
  | multipleRoots first second =>
    "document has more than one root element: '" ++ first ++ "' and '" ++ second ++ "'"
  | tooDeep limit => "elements are nested deeper than " ++ toString limit ++ " levels"
  | unclosedElement name => "element '" ++ name ++ "' is never closed"

end GatewayRecipes.Markup
