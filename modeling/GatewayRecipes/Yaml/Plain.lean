import GatewayRecipes.Yaml.Quoted

/-! YAML scalars without quotes: plain ones, and blocks of lines. -/
namespace GatewayRecipes.Yaml

/-- Whether a plain scalar goes on with a character that is no gap, before a next one. -/
def plainGoesOn (inFlow : Bool) (x : Char) (next : Option Char) : Bool :=
  if x = ':' then !(Cursor.isGap next || (inFlow && next.any isBracket))
  else !(inFlow && isBracket x)

/-- The length of the run of characters at the start of a text that belong to a plain scalar. -/
def plainRun (inFlow : Bool) : List Char → Nat
  | [] => 0
  | x :: rest =>
    if isBlank x || endsLine x || !plainGoesOn inFlow x rest.head? then 0
    else plainRun inFlow rest + 1

/-- Pass over blanks and line ends behind a run of a plain scalar. A tab before the indentation may
only stand on a line that is otherwise empty, or holds a comment: the end of that does not count. -/
def passPlainGap? (indent : Int) : (fuel : Nat) → Gap → Option Gap
  | 0, gap => some gap
  | fuel + 1, gap =>
    match gap.cursor.peek? with
    | none => some gap
    | some x =>
      if endsLine x then
        passPlainGap? indent fuel ⟨[], gap.lineEnds + 1, gap.cursor.passLineEnd⟩
      else if isBlank x then
        if gap.lineEnds = 0 then
          passPlainGap? indent fuel ⟨gap.blanks ++ [x], 0, gap.cursor.pass 1⟩
        else if (gap.cursor.column : Int) < indent ∧ x = '\t' then do
          let cursor ← gap.cursor.passComment?
          guard cursor.atLineEnd
          let lineEnds := if cursor.leading then gap.lineEnds else gap.lineEnds - 1
          passPlainGap? indent fuel ⟨[], lineEnds, cursor⟩
        else passPlainGap? indent fuel ⟨[], gap.lineEnds, gap.cursor.pass 1⟩
      else some gap

/-- Read the runs of a plain scalar, behind a gap. The answer is the text, the place behind it and
the gap after it, and whether that has line ends. -/
def readRuns? (inFlow : Bool) (indent : Int) :
    (fuel : Nat) → Gap → Option (List Char × Cursor × Bool)
  | 0, _ => none
  | fuel + 1, gap => do
    let c := gap.cursor
    let ended := (([] : List Char), c, gap.lineEnds != 0)
    if c.atAnyMark || c.peek? = some '#' then return ended
    guard !(inFlow && c.peek? = some '-' && c.second?.any isBracket)
    let n := plainRun inFlow c.rest
    if n = 0 then return ended
    else
      let run := gap.text false ++ c.rest.take n
      let behind ← passPlainGap? indent (c.rest.length + 1) ⟨[], 0, c.pass n⟩
      if !inFlow && (behind.cursor.column : Int) < indent then
        return (run, behind.cursor, behind.lineEnds != 0)
      else
        let (more, c, broken) ← readRuns? inFlow indent fuel behind
        return (run ++ more, c, broken)

/-- Read a plain scalar in a block of some indentation. The answer also tells whether a new line
was begun behind it. -/
def readPlain? (inFlow : Bool) (indent : Int) (c : Cursor) :
    Option (List Char × Cursor × Bool) := do
  guard !(inFlow && (c.column : Int) < indent + 1)
  let (text, behind, broken) ← readRuns? inFlow (indent + 1) (c.rest.length + 1) ⟨[], 0, c⟩
  if text.isEmpty then none else return (text, behind, broken)

/-- What becomes of the line ends behind a block of lines. -/
inductive Chomp
  | clip
  | keep
  | strip
  deriving Repr, DecidableEq, Inhabited

def Chomp.ofSign? : Char → Option Chomp
  | '+' => some .keep
  | '-' => some .strip
  | _ => none

/-- The digit of an indentation, which is not zero. -/
def readIndentDigit? (c : Cursor) : Option (Nat × Cursor) :=
  match c.peek? with
  | some x =>
    if x.isDigit then if x = '0' then none else some (x.toNat - 48, c.pass 1) else some (0, c)
  | none => some (0, c)

/-- Read a sign and the digit of an indentation, in any order. Without a digit it is zero. -/
def readBlockHeader? (c : Cursor) : Option (Chomp × Nat × Cursor) :=
  match c.peek?.bind Chomp.ofSign? with
  | some chomp => do
    let (digit, c) ← readIndentDigit? (c.pass 1)
    return (chomp, digit, c)
  | none => do
    let (digit, c) ← readIndentDigit? c
    match (if digit = 0 then none else c.peek?.bind Chomp.ofSign?) with
    | some chomp => return (chomp, digit, c.pass 1)
    | none => return (.clip, digit, c)

/-- Pass over the indentation of a line, and over lines that have nothing else. The answer counts
those. -/
def passIndent (indent : Nat) : (fuel : Nat) → Cursor → Nat × Cursor
  | 0, c => (0, c)
  | fuel + 1, c =>
    let c := c.pass (min (indent - c.column) (c.rest.takeWhile (· == ' ')).length)
    if c.peek?.any endsLine then
      let (n, c) := passIndent indent fuel c.passLineEnd
      (n + 1, c)
    else (0, c)

/-- Pass over all spaces, and over lines that have nothing else. The answer is the longest row of
spaces and the number of those lines. -/
def passSpaces : (fuel : Nat) → Cursor → Nat × Nat × Cursor
  | 0, c => (0, 0, c)
  | fuel + 1, c =>
    let c := c.passWhile (· == ' ')
    if c.peek?.any endsLine then
      let (longest, n, behind) := passSpaces fuel c.passLineEnd
      (max c.column longest, n + 1, behind)
    else (c.column, 0, c)

/-- The lines of a block so far. -/
structure Lines where
  text : List Char
  /-- Whether the last line ended with a line end, which is not in the text yet. -/
  ended : Bool
  /-- The number of empty lines behind it. -/
  empty : Nat
  /-- Whether the last line began with a blank. -/
  indented : Bool
  cursor : Cursor

def Lines.between (l : Lines) (literal : Bool) : List Char :=
  let further := List.replicate l.empty '\n'
  if !literal && l.ended && !l.indented && !(l.cursor.peek?.any isBlank) then
    if l.empty = 0 then [' '] else further
  else (if l.ended then ['\n'] else []) ++ further

/-- Read the lines of a block that have its indentation. -/
def readLines (literal : Bool) (indent : Nat) : (fuel : Nat) → Lines → Lines
  | 0, l => l
  | fuel + 1, l =>
    let c := l.cursor
    if c.column != indent || c.atEnd || (indent = 0 && c.atMark '.') then l
    else
      let behind := c.passLine
      let text := l.text ++ l.between literal ++ c.rest.takeWhile (!endsLine ·)
      let indented := c.peek?.any isBlank
      if behind.atEnd then ⟨text, false, 0, indented, behind⟩
      else
        let (empty, next) := passIndent indent (behind.rest.length + 1) behind.passLineEnd
        readLines literal indent fuel ⟨text, true, empty, indented, next⟩

/-- The line ends behind a block. A last line without one gets it. -/
def Lines.tail (l : Lines) (chomp : Chomp) (indent : Nat) : List Char :=
  if chomp = .strip then []
  else
    (if l.ended then ['\n'] else []) ++
      (if l.cursor.atEnd && max indent 1 ≤ l.cursor.column then ['\n'] else []) ++
      (if chomp = .keep then List.replicate l.empty '\n' else [])

/-- The text of a block without lines, at the end of a document. -/
def emptyBlock (chomp : Chomp) (started : Bool) (empty : Nat) : List Char :=
  if chomp = .strip || !started then []
  else if chomp = .keep && 0 < empty then List.replicate empty '\n'
  else ['\n']

/-- Read a block behind its mark, below a place of some indentation. -/
def readBlock? (literal : Bool) (indent : Int) (c : Cursor) : Option (List Char × Cursor) := do
  let line := c.line
  let (chomp, digit, c) ← readBlockHeader? c
  let c ← c.passComment?
  guard c.atLineEnd
  let c := c.passLineEnd
  guard (c.peek? != some '\t')
  let (column, empty, c) :=
    if digit = 0 then
      let (longest, empty, behind) := passSpaces (c.rest.length + 1) c
      (max (max longest (indent + 1).toNat) (if 0 < indent then 1 else 0), empty, behind)
    else
      let column := digit + indent.toNat
      let (empty, behind) := passIndent column (c.rest.length + 1) c
      (column, empty, behind)
  if c.atEnd then return (emptyBlock chomp (line < c.line) empty, c)
  else
    guard !(c.column < column && indent < c.column)
    let l := readLines literal column (c.rest.length + 1) ⟨[], false, empty, false, c⟩
    return (l.text ++ l.tail chomp column, l.cursor)

end GatewayRecipes.Yaml
