/-! A YAML text while it is read: what is left of it, and the place that was reached. -/
namespace GatewayRecipes.Yaml

def isBlank (c : Char) : Bool := c == ' ' || c == '\t'

def endsLine (c : Char) : Bool := c == '\n' || c == '\r'

/-- A character with a meaning of its own in lists and records between brackets. -/
def isBracket (c : Char) : Bool := ",[]\x7b\x7d".toList.contains c

structure Cursor where
  rest : List Char
  /-- The number of characters before this place. -/
  index : Nat
  line : Nat
  column : Nat
  /-- Whether there are only blanks before this place on its line. -/
  leading : Bool
  deriving Repr, DecidableEq, Inhabited

namespace Cursor

/-- The start of a text, which ends before the first zero character. -/
def ofText (text : List Char) : Cursor := ⟨text.takeWhile (· != '\x00'), 0, 0, 0, true⟩

def peek? (c : Cursor) : Option Char := c.rest.head?

/-- The character behind the next one. -/
def second? (c : Cursor) : Option Char := c.rest[1]?

def atEnd (c : Cursor) : Bool := c.rest.isEmpty

def atLineEnd (c : Cursor) : Bool := c.peek?.all endsLine

/-- Whether a word ends before a character, or before the end of the text. -/
def isGap (next : Option Char) : Bool := next.all fun x => isBlank x || endsLine x

/-- Pass over some characters of a line. -/
def pass (c : Cursor) (n : Nat) : Cursor :=
  ⟨c.rest.drop n, c.index + n, c.line, c.column + n, c.leading && (c.rest.take n).all isBlank⟩

/-- Pass over all characters of a line from here that are of some sort. -/
def passWhile (c : Cursor) (p : Char → Bool) : Cursor := c.pass (c.rest.takeWhile p).length

/-- Go on within a line to where some text is left. -/
def passTo (c : Cursor) (rest : List Char) : Cursor := c.pass (c.rest.length - rest.length)

def passLineEnd (c : Cursor) : Cursor :=
  match c.rest with
  | '\r' :: '\n' :: rest => ⟨rest, c.index + 2, c.line + 1, 0, true⟩
  | _ :: rest => ⟨rest, c.index + 1, c.line + 1, 0, true⟩
  | [] => c

/-- Pass over what is left of a line but for its end. -/
def passLine (c : Cursor) : Cursor := c.passWhile (!endsLine ·)

/-- Pass over blanks and a comment, which needs a blank before it. -/
def passComment? (c : Cursor) : Option Cursor :=
  let after := c.passWhile isBlank
  if after.peek? = some '#' then
    if after.index = c.index then none else some after.passLine
  else some after

/-- Pass over spaces, comments and line ends. -/
def skipLines : (fuel : Nat) → Cursor → Cursor
  | 0, c => c
  | fuel + 1, c =>
    match c.peek? with
    | some x =>
      if x = ' ' then skipLines fuel (c.pass 1)
      else if endsLine x then skipLines fuel c.passLineEnd
      else if x = '#' then skipLines fuel c.passLine
      else c
    | none => c

/-- Pass over spaces, comments and line ends. -/
def passLines (c : Cursor) : Cursor := skipLines (c.rest.length + 1) c

/-- Whether a document mark stands here: three of a character at the start of a line. -/
def atMark (c : Cursor) (mark : Char) : Bool :=
  c.column = 0 && [mark, mark, mark].isPrefixOf c.rest && isGap c.rest[3]?

def atAnyMark (c : Cursor) : Bool := c.atMark '-' || c.atMark '.'

end Cursor
end GatewayRecipes.Yaml
