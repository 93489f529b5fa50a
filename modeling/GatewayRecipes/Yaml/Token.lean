import GatewayRecipes.Yaml.Plain
import GatewayRecipes.Yaml.Tag

/-! Tokens of a YAML text. The layout of lines is written out in them: blocks have a start and an
end, and what turns out to be a key has a mark before it. -/
namespace GatewayRecipes.Yaml

inductive Token
  | versionDirective
  | tagDirective (handle tagPrefix : String)
  | documentStart
  | documentEnd
  | blockListStart
  | blockRecordStart
  | blockEnd
  | flowListStart
  | flowListEnd
  | flowRecordStart
  | flowRecordEnd
  | item
  | comma
  | key
  | value
  | alias (name : String)
  | anchor (name : String)
  | tag (handle suffix : String)
  | scalar (plain : Bool) (text : String)
  deriving Repr, DecidableEq, Inhabited

/-- Where a key may have begun that is only known by the colon behind it. -/
structure KeyStart where
  possible : Bool
  /-- A line that begins here must be a key. -/
  required : Bool
  /-- The number of tokens before it. -/
  token : Nat
  index : Nat
  line : Nat
  column : Nat
  deriving Repr, DecidableEq, Inhabited

def KeyStart.none : KeyStart := ⟨false, false, 0, 0, 0, 0⟩

/-- The indentation around a block, and whether a token ends that block. Lists and records between
brackets, and values behind a colon, are indented by one without being blocks. -/
structure Indent where
  around : Int
  block : Bool
  deriving Repr, DecidableEq, Inhabited

/-- What is known of a text that was read up to some place. -/
structure Layout where
  cursor : Cursor
  tokens : Array Token
  /-- Whether a key or a block may begin here. -/
  keyAllowed : Bool
  /-- Key starts, the innermost bracket first. -/
  keys : List KeyStart
  indent : Int
  indents : List Indent
  /-- The number of brackets that are open. -/
  depth : Nat
  /-- The lists between brackets that are open, the innermost first: whether an entry that is put
  into braces is under way. -/
  lists : List Bool
  /-- Whether entries of lists are taken as they are: since the last one that was put into braces,
  braces or the mark of a key came up between brackets. -/
  braced : Bool
  /-- The place behind a quoted scalar or a bracket, where a colon needs no blank behind it. -/
  adjacentAt : Option Nat
  deriving Inhabited

namespace Layout

def ofText (text : List Char) : Layout :=
  ⟨.ofText text, #[], true, [.none], -1, [], 0, [], false, none⟩

def inFlow (l : Layout) : Bool := l.depth != 0

def push (l : Layout) (t : Token) : Layout := { l with tokens := l.tokens.push t }

def insert (l : Layout) (n : Nat) (t : Token) : Layout :=
  { l with tokens := l.tokens.insertIdxIfInBounds n t }

def move (l : Layout) (c : Cursor) : Layout := { l with cursor := c }

def allowKey (l : Layout) (allowed : Bool) : Layout := { l with keyAllowed := allowed }

def key (l : Layout) : KeyStart := l.keys.headD .none

def setKey (l : Layout) (k : KeyStart) : Layout := { l with keys := k :: l.keys.drop 1 }

/-- Begin a block at a column that is further in, with its token at a place among the tokens. -/
def openBlock (l : Layout) (column : Nat) (place : Nat) (t : Token) : Layout :=
  let column : Int := column
  if l.inFlow then l
  else
    let l := match l.indents with
      | ⟨around, false⟩ :: more =>
        if l.indent ≤ column then { l with indent := around, indents := more } else l
      | _ => l
    if l.indent < column then
      { l with indent := column, indents := ⟨l.indent, true⟩ :: l.indents }.insert place t
    else l

/-- Indent by one without a block. -/
def indentOnce (l : Layout) : Layout :=
  match l.indents with
  | ⟨_, true⟩ :: _ =>
    if l.inFlow then l
    else { l with indent := l.indent + 1, indents := ⟨l.indent, false⟩ :: l.indents }
  | _ => l

/-- End the indentation of what is no block. -/
def endIndents (l : Layout) : Layout :=
  match l.indents.dropWhile (!·.block), (l.indents.takeWhile (!·.block)).getLast? with
  | more, some last => { l with indent := last.around, indents := more }
  | _, none => l

/-- End the blocks that are further in than a column. -/
def closeBlocks (column : Int) : List Indent → Layout → Layout
  | [], l => l
  | i :: more, l =>
    if l.indent ≤ column then l
    else
      let l := { l with indent := i.around, indents := more }
      closeBlocks column more (if i.block then l.push .blockEnd else l)

/-- End the blocks that are further in than a column, where there are no brackets. -/
def close (l : Layout) (column : Int) : Layout :=
  if l.inFlow then l else closeBlocks column l.indents l

/-- Remember that a key may begin here. -/
def startKey (l : Layout) : Layout :=
  if l.keyAllowed then
    let c := l.cursor
    let required := !l.inFlow && l.indent = c.column && l.indents.head?.any (·.block)
    l.setKey ⟨true, required, l.tokens.size, c.index, c.line, c.column⟩
  else l

/-- Forget the last key start, which must not have been required. -/
def dropKey? (l : Layout) : Option Layout :=
  if l.key.possible && l.key.required then none
  else some (l.setKey { l.key with possible := false })

/-- Whether a key can no longer come to its end: it stands on one line and is not too long. -/
def isStale (l : Layout) (k : KeyStart) : Bool :=
  k.possible && !l.inFlow && (k.line < l.cursor.line || k.index + 1024 < l.cursor.index)

def dropStale? (l : Layout) : Option Layout :=
  if l.keys.any (fun k => l.isStale k && k.required) then none
  else some { l with keys := l.keys.map fun k => { k with possible := k.possible && !l.isStale k } }

/-- Pass over blanks, comments and line ends before a token. -/
def skip? : (fuel : Nat) → Layout → Option Layout
  | 0, l => some l
  | fuel + 1, l =>
    let c := l.cursor
    match c.peek? with
    | some x =>
      if x = '\t' ∧ !l.indents.isEmpty ∧ c.leading ∧ (c.column : Int) < l.indent then do
        let c ← c.passComment?
        guard c.atLineEnd
        skip? fuel (l.move c)
      else if isBlank x then skip? fuel (l.move (c.pass 1))
      else if endsLine x then
        skip? fuel ((l.move c.passLineEnd).allowKey (l.keyAllowed || !l.inFlow))
      else if x = '#' then skip? fuel (l.move c.passLine)
      else some l
    | none => some l

def skipGaps? (l : Layout) : Option Layout := skip? (l.cursor.rest.length + 1) l

/-- End the entry that is put into braces in the innermost list, if there is one. -/
def endEntry (l : Layout) : Layout :=
  match l.lists with
  | true :: more => { l with lists := false :: more, braced := false }.push .flowRecordEnd
  | _ => l

def documentMark? (l : Layout) (t : Token) : Option Layout := do
  let l ← (l.close (-1)).dropKey?
  return ((l.move (l.cursor.pass 3)).allowKey false).push t

def openFlow? (l : Layout) (t : Token) : Option Layout := do
  guard (l.depth < 255)
  let l := l.startKey.indentOnce
  let l := { l with depth := l.depth + 1, keys := .none :: l.keys, keyAllowed := true }
  let l := if t = .flowRecordStart then { l with braced := true }
    else { l with lists := false :: l.lists }
  let c ← (l.cursor.pass 1).passComment?
  return (l.move c).push t

def closeFlow? (l : Layout) (t : Token) : Option Layout := do
  let l ← l.dropKey?
  let l := if l.inFlow then { l with depth := l.depth - 1, keys := l.keys.drop 1 } else l
  let l := if t = .flowListEnd then { l.endEntry with lists := l.lists.drop 1 } else l
  let c ← (l.cursor.pass 1).passComment?
  let l := ((l.move c).allowKey false).push t
  return if l.inFlow then { l with adjacentAt := some c.index } else l

def comma? (l : Layout) : Option Layout := do
  let l := (← l.dropKey?).endEntry
  let c ← (l.cursor.pass 1).passComment?
  return ((l.move c).allowKey true).push .comma

/-- The dash before an item of a block. -/
def item? (l : Layout) : Option Layout := do
  guard (!l.inFlow && l.keyAllowed)
  let dash := l.cursor
  let l := l.openBlock dash.column l.tokens.size .blockListStart
  let c ← (dash.pass 1).passComment?
  let tab := ((dash.pass 1).rest.takeWhile isBlank).contains '\t'
  guard !(tab && c.peek? = some '-' && Cursor.isGap c.second?)
  let l := l.move c
  let l := if c.peek?.any (fun x => endsLine x || isBracket x) then l.indentOnce else l
  let l ← l.dropKey?
  return (l.allowKey true).push .item

/-- A question mark before a key. -/
def question? (l : Layout) : Option Layout := do
  guard (l.inFlow || l.keyAllowed)
  let c := l.cursor
  let l ← (l.openBlock c.column l.tokens.size .blockRecordStart).dropKey?
  let c := c.pass 1
  guard (c.peek?.any fun x => x == ' ' || endsLine x)
  let c := c.passLines
  guard (c.peek? != some '\t')
  let l := { l with braced := l.braced || l.inFlow }
  return ((l.move c).allowKey (!l.inFlow)).push .key

/-- What follows a colon may not be set off by tabs alone if it looks like a value. -/
def passColon? (c : Cursor) : Option Cursor :=
  let c := c.pass 1
  if c.peek? = some '\t' then do
    let behind ← c.passComment?
    let spaced := (c.rest.takeWhile isBlank).contains ' '
    guard (spaced || !(behind.peek?.any fun x => x == '-' || x == '_' || x.isAlphanum))
    return behind
  else some c

/-- A colon before a value. An entry of a list between brackets is put into braces. -/
def colon? (l : Layout) : Option Layout := do
  let c := l.cursor
  let k := l.key
  let l := l.move (← passColon? c)
  let entry := !l.braced && !l.lists.isEmpty
  let l := if entry then { l with lists := true :: l.lists.drop 1 } else l
  if k.possible then
    guard !(entry && k.line < c.line)
    let l := l.insert k.token .key
    let l := if entry then l.insert k.token .flowRecordStart else l
    let l := l.openBlock k.column k.token .blockRecordStart
    return ((l.indentOnce.setKey { k with possible := false }).allowKey false).push .value
  else
    guard (l.inFlow || l.keyAllowed)
    let l := if entry then l.push .flowRecordStart else l
    let l := l.openBlock c.column l.tokens.size .blockRecordStart
    return (l.indentOnce.allowKey (!l.inFlow)).push .value

def inAnchor (c : Char) : Bool := !(isBlank c || endsLine c || isBracket c || c == '\ufeff')

def anchor? (l : Layout) (t : String → Token) : Option Layout := do
  let l := l.startKey.allowKey false
  let name := (l.cursor.rest.drop 1).takeWhile inAnchor
  guard !name.isEmpty
  return (l.move (l.cursor.pass (name.length + 1))).push (t (String.ofList name))

def tag? (l : Layout) : Option Layout := do
  let l := l.startKey.allowKey false
  let (handle, suffix, rest) ← readTag? (l.cursor.rest.drop 1)
  let c := l.cursor.passTo rest
  guard (Cursor.isGap c.peek? || (l.inFlow && c.peek?.any isBracket))
  return (l.move c).push (.tag handle suffix)

def quoted? (l : Layout) (single : Bool) : Option Layout := do
  let line := l.cursor.line
  let l := l.startKey.allowKey false
  let c := l.cursor.pass 1
  let (text, c) ← readQuoted? single l.indent (c.rest.length + 1) c
  let c ← c.passComment?
  guard (c.atLineEnd || (l.inFlow && c.peek?.any fun x => x != '[' && x != '\x7b' && isBracket x) ||
    (c.peek? = some ':' && (l.inFlow || line = c.line)))
  let l ← (l.move c).skipGaps?
  return { l with adjacentAt := some l.cursor.index }.push (.scalar false (String.ofList text))

def block? (l : Layout) (literal : Bool) : Option Layout := do
  let l := (l.startKey.allowKey true).endIndents
  let (text, c) ← readBlock? literal l.indent (l.cursor.pass 1)
  return (l.move c).push (.scalar false (String.ofList text))

def plain? (l : Layout) : Option Layout := do
  let l := (l.startKey.allowKey false).endIndents
  let (text, c, broken) ← readPlain? l.inFlow l.indent l.cursor
  return ((l.move c).allowKey broken).push (.scalar true (String.ofList text))

/-- The number of a YAML version. -/
def readVersionPart? (c : Cursor) : Option Cursor :=
  let behind := c.passWhile Char.isDigit
  if behind.index = c.index || c.index + 9 < behind.index then none else some behind

def readDirective? (c : Cursor) : Option (Token × Cursor) := do
  let name := c.rest.takeWhile inWord
  let c := c.pass name.length
  guard (!name.isEmpty && Cursor.isGap c.peek?)
  let c' := c.passWhile isBlank
  if name = "YAML".toList then
    let c ← readVersionPart? c'
    guard (c.peek? = some '.')
    return (.versionDirective, ← readVersionPart? (c.pass 1))
  else if name = "TAG".toList then
    let (handle, rest) ← readHandle? c'.rest
    let c := (c'.passTo rest).passWhile isBlank
    let (declared, rest) ← readPrefix? c.rest
    let c := c.passTo rest
    guard (Cursor.isGap c.peek?)
    return (.tagDirective handle declared, c)
  else return (.tagDirective "" "", c.passLine)

def directive? (l : Layout) : Option Layout := do
  let l ← (l.close (-1)).dropKey?
  let (t, c) ← readDirective? (l.cursor.pass 1)
  let c ← c.passComment?
  guard c.atLineEnd
  return ((l.move c.passLineEnd).allowKey false).push t

/-- The end of the text. -/
def finish? (l : Layout) : Option Layout :=
  if l.keys.any (fun k => k.possible && k.required) then none else some (l.close (-1))

/-- The next token by its first character. -/
def token? (l : Layout) (x : Char) : Option Layout :=
  let c := l.cursor
  let gap := Cursor.isGap c.second?
  match x with
  | '[' => l.openFlow? .flowListStart
  | '\x7b' => l.openFlow? .flowRecordStart
  | ']' => l.closeFlow? .flowListEnd
  | '\x7d' => l.closeFlow? .flowRecordEnd
  | ',' => l.comma?
  | '*' => l.anchor? .alias
  | '&' => l.anchor? .anchor
  | '!' => l.tag?
  | '\'' => l.quoted? true
  | '"' => l.quoted? false
  | '-' => if gap then l.item? else l.plain?
  | '?' => if gap then l.question? else l.plain?
  | ':' =>
    if gap || (l.inFlow && (c.second?.any isBracket || l.adjacentAt = some c.index)) then l.colon?
    else l.plain?
  | '|' => if l.inFlow then l.plain? else l.block? true
  | '>' => if l.inFlow then l.plain? else l.block? false
  | '%' | '@' | '\x60' => none
  | _ => l.plain?

def read? : (fuel : Nat) → Layout → Option Layout
  | 0, _ => none
  | fuel + 1, l => do
    let l ← l.skipGaps?
    let l ← l.dropStale?
    let c := l.cursor
    let l := l.close c.column
    match c.peek? with
    | none => l.finish?
    | some x =>
      if c.column = 0 ∧ x = '%' then read? fuel (← l.directive?)
      else if c.atMark '-' then read? fuel (← l.documentMark? .documentStart)
      else if c.atMark '.' then
        let l ← l.documentMark? .documentEnd
        let behind ← l.cursor.passComment?
        guard behind.atLineEnd
        read? fuel (l.move behind)
      else
        guard (l.indent ≤ c.column)
        read? fuel (← l.token? x)

end Layout

def tokens? (text : List Char) : Option (List Token) :=
  (Layout.read? (text.length + 1) (.ofText text)).map (·.tokens.toList)

end GatewayRecipes.Yaml
