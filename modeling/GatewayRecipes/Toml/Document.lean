import GatewayRecipes.Toml.Value

/-! TOML documents: entries under headers, put together to one table. -/
namespace GatewayRecipes.Toml
open Settings (Value)

/-- A header and whether it is one of several tables. The first entries have none. -/
structure Section where
  path : List String
  repeated : Bool
  entries : List (List String × Value)

def readHeader? (text : List Char) : Option (Section × List Char) :=
  match text with
  | '[' :: rest => do
    let (path, rest) ← readKey? rest
    guard ([']', ']'].isPrefixOf rest)
    return (⟨path, true, []⟩, ← passLine? (rest.drop 2))
  | _ => do
    let (path, rest) ← readKey? text
    guard (rest.head? = some ']')
    return (⟨path, false, []⟩, ← passLine? (rest.drop 1))

/-- Read a key with its value, on a line. -/
def readEntry? (text : List Char) : Option ((List String × Value) × List Char) := do
  let (key, rest) ← readKey? text
  guard (rest.head? = some '=')
  let (value, rest) ← readValue? (text.length + 1) 0 (skipBlanks (rest.drop 1))
  return ((key, value), ← passLine? rest)

/-- Read the lines of a document. The sections come in order, and the first one is under way. -/
def readSections? : (fuel : Nat) → Section → List Char → Option (List Section)
  | 0, _, _ => none
  | fuel + 1, current, text =>
    match skipLines text.length text with
    | [] => some [current]
    | '[' :: rest => do
      let (next, rest) ← readHeader? rest
      return current :: (← readSections? fuel next rest)
    | rest => do
      let (entry, rest) ← readEntry? rest
      readSections? fuel { current with entries := current.entries ++ [entry] } rest

/-- Change what stands at a path of headers, the last of several tables being meant. -/
def changeAt (change : Option Item → Option Item) : (path : List String) → Table Item →
    Option (Table Item)
  | [], _ => none
  | [key], t => (change (t.get? key)).map (t.put key)
  | key :: rest, t =>
    match t.get? key with
    | none => (changeAt change rest []).map fun inner => t.put key (.table .implied inner)
    | some (.table origin inner) =>
      (changeAt change rest inner).map fun inner => t.put key (.table origin inner)
    | some (.tables all) =>
      match all.getLast? with
      | none => none
      | some last =>
        (changeAt change rest last).map fun last => t.put key (.tables (all.dropLast ++ [last]))
    | some (.value _) => none

namespace Section

def fill? (s : Section) (t : Table Item) : Option (Table Item) :=
  s.entries.foldlM (fun t e => insertDotted e.2 e.1 t) t

/-- What stands under the header of a section with the section added. A table has one header. -/
def declare? (s : Section) (before : Option Item) : Option Item :=
  if s.repeated then
    match before with
    | none => (s.fill? []).map fun t => .tables [t]
    | some (.tables all) => (s.fill? []).map fun t => .tables (all ++ [t])
    | _ => none
  else
    match before with
    | none => (s.fill? []).map (.table .header)
    | some (.table .implied inner) => (s.fill? inner).map (.table .header)
    | _ => none

def add? (t : Table Item) (s : Section) : Option (Table Item) :=
  if s.path.isEmpty then s.fill? t else changeAt s.declare? s.path t

end Section

/-- The key of tables that stand for moments. -/
def momentKey : String := "$__toml_private_datetime"

/-- What stands under the key for moments, where a table begins with it. -/
def momentValue? : List (String × Value) → Option Value
  | (key, v) :: _ => if key = momentKey then some v else none
  | [] => none

/-- The moment that a whole text writes, in its one form. -/
def momentText? : Value → Option String
  | .text s =>
    match readMoment? s.toList with
    | some (m, []) => some m.text
    | _ => none
  | _ => none

mutual

/-- A value with moments in place of the tables that stand for them. -/
def withMoments? : Value → Option Value
  | .table entries =>
    match momentValue? entries with
    | some v => (momentText? v).map .text
    | none => (entriesWithMoments? entries).map .table
  | .list items => (itemsWithMoments? items).map .list
  | v => some v

def entriesWithMoments? : List (String × Value) → Option (List (String × Value))
  | [] => some []
  | (key, v) :: rest => do return (key, ← withMoments? v) :: (← entriesWithMoments? rest)

def itemsWithMoments? : List Value → Option (List Value)
  | [] => some []
  | v :: rest => do return (← withMoments? v) :: (← itemsWithMoments? rest)

end

def document? (text : List Char) : Option (Table Value) := do
  let text := if text.head? = some '\ufeff' then text.drop 1 else text
  let sections ← readSections? (text.length + 1) ⟨[], false, []⟩ text
  let t ← sections.foldlM Section.add? []
  match ← withMoments? (.table (finishedEntries t)) with
  | .table entries => return entries
  | _ => none

end GatewayRecipes.Toml
