import GatewayRecipes.Output.Data
import GatewayRecipes.Text.Utf8
import GatewayRecipes.Yaml.Scalar

/-! YAML texts of data in block style. -/
namespace GatewayRecipes.Yaml
open GatewayRecipes.Output

/-- A page that is written from left to right: the characters in reverse order, the column, and
whether the line has ended in white space and holds nothing but indentation. -/
structure Page where
  reversed : List Char
  column : Nat
  afterSpace : Bool
  indented : Bool
  deriving Repr, Inhabited

namespace Page

def blank : Page := ⟨[], 0, true, true⟩

def put (p : Page) (c : Char) : Page :=
  { p with reversed := c :: p.reversed, column := p.column + 1 }

def putAll (p : Page) (cs : List Char) : Page := cs.foldl put p

def breakLine (p : Page) (c : Char) : Page := { p with reversed := c :: p.reversed, column := 0 }

/-- Start a line at a column, or go on to it where the line holds nothing else. -/
def startLine (p : Page) (indent : Nat) : Page :=
  let p := if !p.indented || p.column > indent || (p.column == indent && !p.afterSpace) then
    p.breakLine '\n' else p
  { p.putAll (List.replicate (indent - p.column) ' ') with afterSpace := true, indented := true }

/-- Write a mark. `needsSpace`: it stands behind a space. `isSpace`, `isIndent`: what follows may
take it for a space, or for indentation. -/
def mark (p : Page) (text : String) (needsSpace isSpace isIndent : Bool) : Page :=
  let p := if needsSpace && !p.afterSpace then p.put ' ' else p
  { p.putAll text.toList with afterSpace := isSpace, indented := p.indented && isIndent }

/-- Note that the line holds text. -/
def filled (p : Page) : Page := { p with afterSpace := false, indented := false }

def plain (p : Page) (cs : List Char) : Page :=
  ((if p.afterSpace then p else p.put ' ').putAll cs).filled

/-- Write the characters of a scalar in single quotes. `atBreak`: the last one was a break. -/
def singleBody (p : Page) (indent : Nat) (atBreak : Bool) : List Char → Page
  | [] => if atBreak then p.startLine indent else p
  | c :: rest =>
    if c = ' ' then (p.put ' ').singleBody indent atBreak rest
    else if isBreak c then
      singleBody { p.breakLine c with indented := true } indent true rest
    else
      let p := if atBreak then p.startLine indent else p
      let p := if c = '\'' then p.put '\'' else p
      singleBody { p.put c with indented := false } indent false rest

def single (p : Page) (indent : Nat) (cs : List Char) : Page :=
  ((p.mark "'" true false false).singleBody indent false cs).mark "'" false false false

def upperDigit (n : Nat) : Char := if n < 10 then Char.ofNat (48 + n) else Char.ofNat (55 + n)

/-- A number in hexadecimal digits, at least `width` many. -/
def upperHex (width n : Nat) : List Char :=
  (List.range width).reverse.map fun i => upperDigit (n / Nat.pow 16 i % 16)

/-- One character inside double quotes. -/
def doubleChar (c : Char) : List Char :=
  let named := [('\x00', '0'), ('\x07', 'a'), ('\x08', 'b'), ('\t', 't'), ('\n', 'n'),
    ('\x0b', 'v'), ('\x0c', 'f'), ('\r', 'r'), ('\x1b', 'e'), ('"', '"'), ('\\', '\\'),
    ('\u0085', 'N'), ('\u2028', 'L'), ('\u2029', 'P')]
  match named.lookup c with
  | some name => ['\\', name]
  | none =>
    if isPrintable c then [c]
    else if c.toNat ≤ 0xff then '\\' :: 'x' :: upperHex 2 c.toNat
    else if c.toNat ≤ 0xffff then '\\' :: 'u' :: upperHex 4 c.toNat
    else '\\' :: 'U' :: upperHex 8 c.toNat

def double (p : Page) (cs : List Char) : Page :=
  ((p.mark "\"" true false false).putAll (cs.flatMap doubleChar)).mark "\"" false false false

/-- The hints behind the mark of a block: its indentation where the text begins with a space or a
break, and what happens to the breaks at its end. -/
def literalHints (cs : List Char) : String :=
  (if cs.head?.any (fun c => c == ' ' || isBreak c) then "2" else "") ++
    match cs.reverse with
    | [] => "-"
    | c :: rest =>
      if !isBreak c then "-"
      else if rest.isEmpty || rest.head?.any isBreak then "+"
      else ""

def literalBody (p : Page) (indent : Nat) (atBreak : Bool) : List Char → Page
  | [] => p
  | c :: rest =>
    if isBreak c then literalBody { p.breakLine c with indented := true } indent true rest
    else
      let p := if atBreak then p.startLine indent else p
      literalBody { p.put c with indented := false } indent false rest

def literal (p : Page) (indent : Nat) (cs : List Char) : Page :=
  let p := (p.mark "|" true false false).mark (literalHints cs) false false false
  literalBody { p.breakLine '\n' with afterSpace := true, indented := true } indent true cs

/-- Write a text in its style; further lines of it start at `indent`. -/
def scalar (p : Page) (indent : Nat) (style : ScalarStyle) (text : String) : Page :=
  match style with
  | .plain => p.plain text.toList
  | .single => p.single indent text.toList
  | .double => p.double text.toList
  | .literal => p.literal indent text.toList

def text (p : Page) : String := String.ofList p.reversed.reverse

end Page

/-- Whether a key fits on the line of its value. -/
def isSimpleKey (key : String) : Bool :=
  !key.toList.any isBreak && key.utf8ByteSize ≤ 128

/-- Write a key, and the mark before its value. -/
def printKey (p : Page) (indent : Nat) (key : String) : Page :=
  let p := p.startLine indent
  if isSimpleKey key then
    (p.scalar (indent + 2) (styleOf key) key).mark ":" false false false
  else
    let p := (p.mark "?" true false true).scalar (indent + 2) (styleOf key) key
    (p.startLine indent).mark ":" true false true

mutual

/-- Write data. `indent` is the column of the surrounding block, or none outside all blocks, and
`inRecord` tells whether that is a record. -/
def printData (p : Page) (indent : Option Nat) (inRecord : Bool) : Data → Page
  | .bool b => p.plain (if b then "true" else "false").toList
  | .number n => p.plain (toString n).toList
  | .text s => p.scalar (indent.elim 2 (· + 2)) (styleOf s) s
  | .list [] => (p.mark "[" true true false).mark "]" false false false
  | .list (d :: rest) =>
    let column := match indent with
      | none => 0
      | some n => if inRecord && !p.indented then n else n + 2
    printItems p column (d :: rest)
  | .record [] => (p.mark "\x7b" true true false).mark "\x7d" false false false
  | .record (f :: rest) => printFields p (indent.elim 0 (· + 2)) (f :: rest)

/-- Write the items of a list, each behind a dash in a column. -/
def printItems (p : Page) (column : Nat) : List Data → Page
  | [] => p
  | d :: rest =>
    printItems (printData ((p.startLine column).mark "-" true false true) (some column) false d)
      column rest

/-- Write the fields of a record, each on a line that starts in a column. -/
def printFields (p : Page) (column : Nat) : List (String × Data) → Page
  | [] => p
  | (k, d) :: rest =>
    printFields (printData (printKey p column k) (some column) true d) column rest

end

def print (d : Data) : String := ((printData .blank none false d).startLine 0).text

end GatewayRecipes.Yaml
