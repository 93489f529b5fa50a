import GatewayRecipes.Number.Integer
import GatewayRecipes.Yaml.Cursor

/-! Tags of YAML nodes as they are written: a handle, which stands for a prefix, and a suffix.
Characters of suffixes and prefixes may be escaped. -/
namespace GatewayRecipes.Yaml

/-- A character of words in directives and tags. -/
def inWord (c : Char) : Bool := c.isAlphanum || c == '_' || c == '-'

/-- A character of the names that tags are made of. -/
def inTag (c : Char) : Bool :=
  (inWord c || "#;/?:@&=+$.~*'()%".toList.contains c) && !isBracket c

/-- A character of whole tags and of prefixes. -/
def inUri (c : Char) : Bool := inTag c || c == '!' || c == ',' || c == '[' || c == ']'

/-- Read a byte: a percent sign and two hexadecimal digits. -/
def readByte? : List Char → Option (Nat × List Char)
  | '%' :: high :: low :: rest => do
    return ((← Number.digitIn? 16 high) * 16 + (← Number.digitIn? 16 low), rest)
  | _ => none

/-- How many bytes follow the first byte of a character. -/
def followers? (byte : Nat) : Option Nat :=
  if byte < 0x80 then some 0
  else if byte < 0xc0 then none
  else if byte < 0xe0 then some 1
  else if byte < 0xf0 then some 2
  else if byte < 0xf8 then some 3
  else none

/-- Read the bytes that follow the first ones of a character. -/
def readFollowers? : (count code : Nat) → List Char → Option (Nat × List Char)
  | 0, code, text => some (code, text)
  | count + 1, code, text => do
    let (byte, rest) ← readByte? text
    if 0x80 ≤ byte ∧ byte < 0xc0 then readFollowers? count (code * 256 + byte) rest else none

/-- Read an escaped character. Its bytes are those of UTF-8, and side by side they are its code
point, so that only some characters can be escaped. -/
def readEscaped? (text : List Char) : Option (Char × List Char) := do
  let (byte, rest) ← readByte? text
  let (code, rest) ← readFollowers? (← followers? byte) byte rest
  if code.isValidChar then return (Char.ofNat code, rest) else none

/-- Read characters of some sort, of which the percent sign begins an escape. -/
def readName? (p : Char → Bool) : (fuel : Nat) → List Char → Option (List Char × List Char)
  | 0, _ => none
  | fuel + 1, text =>
    match text with
    | [] => some ([], [])
    | c :: rest =>
      if !p c then some ([], text)
      else do
        let (x, rest) ← if c = '%' then readEscaped? text else some (c, rest)
        let (more, rest) ← readName? p fuel rest
        return (x :: more, rest)

/-- Read characters of some sort up to the first one of another sort. -/
def readWhile? (p : Char → Bool) (text : List Char) : Option (List Char × List Char) :=
  readName? p (text.length + 1) text

/-- Read a tag behind its exclamation mark: its handle and its suffix. -/
def readTag? (text : List Char) : Option (String × String × List Char) := do
  match text with
  | '<' :: rest =>
    let (uri, rest) ← readWhile? inUri rest
    match rest with
    | '>' :: rest => return ("", String.ofList uri, rest)
    | _ => none
  | _ =>
    let word := text.takeWhile inWord
    match text.drop word.length with
    | '!' :: rest =>
      let (suffix, rest) ← readWhile? inTag rest
      if suffix.isEmpty then none
      else return ("!" ++ String.ofList word ++ "!", String.ofList suffix, rest)
    | _ =>
      let (suffix, rest) ← readWhile? inTag text
      return if suffix.isEmpty then ("", "!", rest) else ("!", String.ofList suffix, rest)

def readHandle? : List Char → Option (String × List Char)
  | '!' :: rest =>
    let word := rest.takeWhile inWord
    match rest.drop word.length with
    | '!' :: rest => some ("!" ++ String.ofList word ++ "!", rest)
    | rest => if word.isEmpty then some ("!", rest) else none
  | _ => none

def readPrefix? : List Char → Option (String × List Char)
  | [] => none
  | c :: rest => do
    if !(c == '!' || inTag c) then none
    else
      let (uri, rest) ← readWhile? inUri (c :: rest)
      return (String.ofList uri, rest)

end GatewayRecipes.Yaml
