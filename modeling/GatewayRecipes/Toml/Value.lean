import GatewayRecipes.Settings.Value
import GatewayRecipes.Toml.Moment
import GatewayRecipes.Toml.Number

/-! Keys and values of TOML, and tables while they are built. -/
namespace GatewayRecipes.Toml
open Settings (Value)

/-- How a table came to be. -/
inductive Origin
  /-- Declared by its own header. -/
  | header
  /-- Needed on the way to another table. -/
  | implied
  /-- Needed by a key with points. -/
  | dotted
  deriving Repr, DecidableEq, Inhabited

/-- What stands under a key of a table that is being built. -/
inductive Item
  | value (v : Value)
  | table (origin : Origin) (entries : List (String × Item))
  /-- Tables under one header, in order. -/
  | tables (all : List (List (String × Item)))
  deriving Inhabited

mutual

def Item.finished : Item → Value
  | .value v => v
  | .table _ entries => .table (finishedEntries entries)
  | .tables all => .list (finishedTables all)

def finishedEntries : List (String × Item) → List (String × Value)
  | [] => []
  | (key, item) :: rest => (key, item.finished) :: finishedEntries rest

def finishedTables : List (List (String × Item)) → List Value
  | [] => []
  | entries :: rest => .table (finishedEntries entries) :: finishedTables rest

end

/-- Add the value of a key with points. A key is bound once, and tables that are declared otherwise
are not added to. -/
def insertDotted (value : Value) : (path : List String) → Table Item → Option (Table Item)
  | [], _ => none
  | [key], t => if t.has key then none else some (t.put key (.value value))
  | key :: rest, t =>
    match t.get? key with
    | none => (insertDotted value rest []).map fun inner => t.put key (.table .dotted inner)
    | some (.table origin inner) =>
      if origin = .header ∨ (rest.length = 1 ∧ origin ≠ .dotted) then none
      else (insertDotted value rest inner).map fun inner => t.put key (.table origin inner)
    | some (.tables all) =>
      if rest.length = 1 then none
      else
        match all.getLast? with
        | none => none
        | some last =>
          (insertDotted value rest last).map fun last =>
            t.put key (.tables (all.dropLast ++ [last]))
    | some (.value _) => none

def inBareKey (c : Char) : Bool := c.isAlphanum || c == '_' || c == '-'

def readKeyPart? (text : List Char) : Option (String × List Char) :=
  let bare := text.takeWhile inBareKey
  if bare.isEmpty then (readLineString? text).map fun (s, rest) => (String.ofList s, rest)
  else some (String.ofList bare, text.drop bare.length)

/-- Read a key: parts with points between them, and blanks around them. -/
def readKeyParts? : (fuel : Nat) → List Char → Option (List String × List Char)
  | 0, _ => none
  | fuel + 1, text => do
    let (part, rest) ← readKeyPart? (skipBlanks text)
    match skipBlanks rest with
    | '.' :: rest => do
      let (parts, rest) ← readKeyParts? fuel rest
      return (part :: parts, rest)
    | rest => return ([part], rest)

/-- How deep values may be nested, and how many parts a key may have, plus one. -/
def maxDepth : Nat := 80

def readKey? (text : List Char) : Option (List String × List Char) := do
  let (parts, rest) ← readKeyParts? (text.length + 1) text
  guard (parts.length < maxDepth)
  return (parts, rest)

/-- Read a scalar that begins with a digit or a sign. -/
def readNumeric? (text : List Char) : Option (Value × List Char) :=
  match readMoment? text with
  | some (m, rest) => some (.text m.text, rest)
  | none =>
    match (readDecimal? text).or (readFloatWord? text) with
    | some (x, rest) => some (.float x, rest)
    | none => (readInteger? text).map fun (n, rest) => (.int n, rest)

def readWord? : List Char → Option (Value × List Char)
  | 't' :: 'r' :: 'u' :: 'e' :: rest => some (.bool true, rest)
  | 'f' :: 'a' :: 'l' :: 's' :: 'e' :: rest => some (.bool false, rest)
  | text => (readFloatWord? text).map fun (x, rest) => (.float x, rest)

mutual

/-- Read a value within others. -/
def readValue? : (fuel depth : Nat) → List Char → Option (Value × List Char)
  | 0, _, _ => none
  | fuel + 1, depth, text =>
    match text with
    | [] => none
    | c :: rest =>
      if c = '"' ∨ c = '\'' then
        (readString? text).map fun (s, rest) => (.text (String.ofList s), rest)
      else if c = '[' then
        if depth + 1 < maxDepth then
          (readItems? fuel (depth + 1) (skipLines rest.length rest)).map fun (items, rest) =>
            (.list items, rest)
        else none
      else if c = '\x7b' then
        if depth + 1 < maxDepth then
          (readEntries? fuel (depth + 1) (skipBlanks rest)).map fun (entries, rest) =>
            (.table (finishedEntries entries), rest)
        else none
      else if c.isDigit || c == '+' || c == '-' then readNumeric? text
      else readWord? text

/-- Read the items of a list up to its end. -/
def readItems? : (fuel depth : Nat) → List Char → Option (List Value × List Char)
  | 0, _, _ => none
  | fuel + 1, depth, text =>
    match text with
    | ']' :: rest => some ([], rest)
    | _ => do
      let (item, rest) ← readValue? fuel depth text
      match skipLines rest.length rest with
      | ',' :: rest => do
        let (items, rest) ← readItems? fuel depth (skipLines rest.length rest)
        return (item :: items, rest)
      | ']' :: rest => return ([item], rest)
      | _ => none

/-- Read the entries of a table within braces up to its end. -/
def readEntries? : (fuel depth : Nat) → List Char → Option (Table Item × List Char)
  | 0, _, _ => none
  | fuel + 1, depth, text =>
    match text with
    | '\x7d' :: rest => some ([], rest)
    | _ => readFurther? fuel depth [] text

/-- Read an entry within braces, and those behind it. -/
def readFurther? : (fuel depth : Nat) → Table Item → List Char →
    Option (Table Item × List Char)
  | 0, _, _, _ => none
  | fuel + 1, depth, before, text => do
    let (key, '=' :: rest) ← readKey? text | none
    let (value, rest) ← readValue? fuel depth (skipBlanks rest)
    let entries ← insertDotted value key before
    match skipBlanks rest with
    | ',' :: rest => readFurther? fuel depth entries rest
    | '\x7d' :: rest => return (entries, rest)
    | _ => none

end

end GatewayRecipes.Toml
