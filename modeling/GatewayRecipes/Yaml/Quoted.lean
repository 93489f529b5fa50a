import GatewayRecipes.Number.Integer
import GatewayRecipes.Yaml.Cursor

/-! YAML scalars in quotes. -/
namespace GatewayRecipes.Yaml

/-- Text between lines that are folded into one: a single line end is a space, further ones stay. -/
def foldLines (ends : Nat) : List Char :=
  if ends = 1 then [' '] else List.replicate (ends - 1) '\n'

/-- The character that a letter behind a backslash stands for. -/
def escape? : Char → Option Char
  | '0' => some '\x00'
  | 'a' => some '\x07'
  | 'b' => some '\x08'
  | 't' | '\t' => some '\t'
  | 'n' => some '\n'
  | 'v' => some '\x0b'
  | 'f' => some '\x0c'
  | 'r' => some '\r'
  | 'e' => some '\x1b'
  | ' ' => some ' '
  | '"' => some '"'
  | '/' => some '/'
  | '\\' => some '\\'
  | 'N' => some '\u0085'
  | '_' => some '\u00a0'
  | 'L' => some '\u2028'
  | 'P' => some '\u2029'
  | _ => none

/-- The number of hexadecimal digits behind a letter behind a backslash. -/
def escapeDigits? : Char → Option Nat
  | 'x' => some 2
  | 'u' => some 4
  | 'U' => some 8
  | _ => none

def charOf? (n : Nat) : Option Char := if n.isValidChar then some (Char.ofNat n) else none

/-- Read an escape behind its backslash: the character, and how many characters it takes. -/
def readEscape? (text : List Char) : Option (Char × Nat) := do
  let letter ← text.head?
  match escapeDigits? letter with
  | some n =>
    let digits := (text.drop 1).take n
    guard (digits.length = n)
    let code ← Number.natural? 16 digits
    return (← charOf? code, n + 1)
  | none => return (← escape? letter, 1)

/-- Blanks and line ends within quotes: the text that they stand for, if lines are joined, and the
place behind them. -/
structure Gap where
  blanks : List Char
  lineEnds : Nat
  cursor : Cursor

/-- Pass over blanks and line ends. Tabs before the indentation of a later line are refused. -/
def passGap? (indent : Int) : (fuel : Nat) → (joined : Bool) → Gap → Option Gap
  | 0, _, gap => some gap
  | fuel + 1, joined, gap =>
    match gap.cursor.peek? with
    | none => some gap
    | some x =>
      if endsLine x then
        passGap? indent fuel joined ⟨[], gap.lineEnds + 1, gap.cursor.passLineEnd⟩
      else if isBlank x then
        if joined || 0 < gap.lineEnds then
          if x = '\t' ∧ (gap.cursor.column : Int) < indent then none
          else passGap? indent fuel joined ⟨gap.blanks, gap.lineEnds, gap.cursor.pass 1⟩
        else
          passGap? indent fuel joined ⟨gap.blanks ++ [x], gap.lineEnds, gap.cursor.pass 1⟩
      else some gap

/-- The text that a gap stands for. Behind an escaped line end all others stay. -/
def Gap.text (gap : Gap) (joined : Bool) : List Char :=
  if joined then List.replicate gap.lineEnds '\n'
  else if gap.lineEnds = 0 then gap.blanks
  else foldLines gap.lineEnds

/-- Read characters up to a blank, a line end or the closing quote. The answer tells whether it was
an escaped line end that they ended with. -/
def readQuotedRun? (single : Bool) : (fuel : Nat) → Cursor → Option (List Char × Bool × Cursor)
  | 0, c => some ([], false, c)
  | fuel + 1, c =>
    match c.rest with
    | [] => some ([], false, c)
    | x :: more =>
      if isBlank x || endsLine x then some ([], false, c)
      else if single then
        if x = '\'' then
          if more.head? = some '\'' then do
            let (text, joined, c) ← readQuotedRun? single fuel (c.pass 2)
            return ('\'' :: text, joined, c)
          else some ([], false, c)
        else do
          let (text, joined, c) ← readQuotedRun? single fuel (c.pass 1)
          return (x :: text, joined, c)
      else if x = '"' then some ([], false, c)
      else if x = '\\' then
        if more.head?.any endsLine then some ([], true, (c.pass 1).passLineEnd)
        else do
          let (y, n) ← readEscape? more
          let (text, joined, c) ← readQuotedRun? single fuel (c.pass (n + 1))
          return (y :: text, joined, c)
      else do
        let (text, joined, c) ← readQuotedRun? single fuel (c.pass 1)
        return (x :: text, joined, c)

/-- Read a scalar behind its opening quote, in a block of some indentation. -/
def readQuoted? (single : Bool) (indent : Int) : (fuel : Nat) → Cursor → Option (List Char × Cursor)
  | 0, _ => none
  | fuel + 1, c => do
    guard (!c.atAnyMark && !c.atEnd && indent ≤ c.column)
    let (text, joined, c) ← readQuotedRun? single (c.rest.length + 1) c
    if c.peek? = some (if single then '\'' else '"') then return (text, c.pass 1)
    else
      let gap ← passGap? indent (c.rest.length + 1) joined ⟨[], 0, c⟩
      let (more, c) ← readQuoted? single indent fuel gap.cursor
      return (text ++ gap.text joined ++ more, c)

end GatewayRecipes.Yaml
