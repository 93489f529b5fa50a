import GatewayRecipes.Output.Data

/-! JSON texts of data: compact, and indented by two spaces a level. -/
namespace GatewayRecipes.Json
open GatewayRecipes.Output

def hexDigit (n : Nat) : Char := if n < 10 then Char.ofNat (48 + n) else Char.ofNat (87 + n)

def escapeChar (c : Char) : List Char :=
  if c = '"' then ['\\', '"']
  else if c = '\\' then ['\\', '\\']
  else if c = '\x08' then ['\\', 'b']
  else if c = '\x0c' then ['\\', 'f']
  else if c = '\n' then ['\\', 'n']
  else if c = '\r' then ['\\', 'r']
  else if c = '\t' then ['\\', 't']
  else if c.toNat < 32 then ['\\', 'u', '0', '0', hexDigit (c.toNat / 16), hexDigit (c.toNat % 16)]
  else [c]

def string (s : String) : List Char := '"' :: s.toList.flatMap escapeChar ++ ['"']

def boolean (b : Bool) : List Char := if b then "true".toList else "false".toList

mutual

/-- Data without white space. -/
def compact : Data → List Char
  | .bool b => boolean b
  | .number n => (toString n).toList
  | .text s => string s
  | .list [] => "[]".toList
  | .list (d :: rest) => '[' :: compact d ++ compactItems rest
  | .record [] => ['\x7b', '\x7d']
  | .record ((k, d) :: rest) => '\x7b' :: string k ++ ':' :: compact d ++ compactFields rest

/-- The further items of a list, and its end. -/
def compactItems : List Data → List Char
  | [] => [']']
  | d :: rest => ',' :: compact d ++ compactItems rest

/-- The further fields of a record, and its end. -/
def compactFields : List (String × Data) → List Char
  | [] => ['\x7d']
  | (k, d) :: rest => ',' :: string k ++ ':' :: compact d ++ compactFields rest

end

/-- A new line, `depth` levels deep. -/
def newLine (depth : Nat) : List Char := '\n' :: List.replicate (2 * depth) ' '

mutual

/-- Data with each item and field on a line of its own. -/
def pretty (depth : Nat) : Data → List Char
  | .bool b => boolean b
  | .number n => (toString n).toList
  | .text s => string s
  | .list [] => "[]".toList
  | .list (d :: rest) =>
    '[' :: newLine (depth + 1) ++ pretty (depth + 1) d ++ prettyItems depth rest
  | .record [] => ['\x7b', '\x7d']
  | .record ((k, d) :: rest) =>
    '\x7b' :: newLine (depth + 1) ++ string k ++ ':' :: ' ' :: pretty (depth + 1) d ++
      prettyFields depth rest

/-- The further items of a list at `depth`, and its end. -/
def prettyItems (depth : Nat) : List Data → List Char
  | [] => newLine depth ++ [']']
  | d :: rest => ',' :: newLine (depth + 1) ++ pretty (depth + 1) d ++ prettyItems depth rest

/-- The further fields of a record at `depth`, and its end. -/
def prettyFields (depth : Nat) : List (String × Data) → List Char
  | [] => newLine depth ++ ['\x7d']
  | (k, d) :: rest =>
    ',' :: newLine (depth + 1) ++ string k ++ ':' :: ' ' :: pretty (depth + 1) d ++
      prettyFields depth rest

end

end GatewayRecipes.Json
