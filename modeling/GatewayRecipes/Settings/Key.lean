import GatewayRecipes.Number.Integer
import GatewayRecipes.Settings.Value
import GatewayRecipes.Text.Casing

/-! Keys of settings: names, or paths into tables and lists. Keys are taken in lower case. -/
namespace GatewayRecipes.Settings

/-- A step below a value. -/
inductive Step
  | name (name : String)
  /-- A place in a list, from the end of it where it is negative. -/
  | index (n : Int)
  deriving Repr, DecidableEq, Inhabited

def inPathName (c : Char) : Bool := c.isAlphanum || c == ' ' || c == '_' || c == '-'

def readPathName? (text : List Char) : Option (String × List Char) :=
  let name := text.takeWhile inPathName
  if name.isEmpty then none else some (String.ofList name, text.dropWhile inPathName)

def isPathSpace (c : Char) : Bool := c == ' ' || c == '\t'

/-- Read a place in a list behind its opening bracket. It may have a minus sign. -/
def readIndex? (text : List Char) : Option (Int × List Char) :=
  let (negative, rest) := match text.dropWhile isPathSpace with
    | '-' :: rest => (true, rest)
    | rest => (false, rest)
  let digits := rest.takeWhile Char.isDigit
  match Number.natural? 10 digits, (rest.drop digits.length).dropWhile isPathSpace with
  | some n, ']' :: rest =>
    let n : Int := if negative then -n else n
    if Number.fitsInt64 n then some (n, rest) else none
  | _, _ => none

def readSteps? : (fuel : Nat) → List Char → Option (List Step)
  | _, [] => some []
  | 0, _ => none
  | fuel + 1, '.' :: rest => do
    let (name, rest) ← readPathName? rest
    let steps ← readSteps? fuel rest
    return .name name :: steps
  | fuel + 1, '[' :: rest => do
    let (n, rest) ← readIndex? rest
    let steps ← readSteps? fuel rest
    return .index n :: steps
  | _, _ => none

/-- The path that a key is. A key that cannot be read as a path is a single name. -/
def keyPath (key : String) : List Step :=
  let key := Text.lower key
  let path? := do
    let (name, rest) ← readPathName? key.toList
    let steps ← readSteps? rest.length rest
    return Step.name name :: steps
  path?.getD [.name key]

mutual

/-- Bind a name in a table. A table is merged into what stands there, name by name. -/
def assign (t : Table Value) (name : String) : Value → Table Value
  | .table incoming =>
    let name := Text.lower name
    t.put name (mergeInto ((t.get? name).getD (.table [])) incoming)
  | v => t.put (Text.lower name) v

/-- Bind names in a value, which becomes a table where it is none. -/
def mergeInto (target : Value) : List (String × Value) → Value
  | [] => target
  | (name, v) :: rest => mergeInto (.table (assign target.entries name v)) rest

end

/-- The place in a list of `length` items that an index means. -/
def placeOf (n : Int) (length : Nat) : Nat := if 0 ≤ n then n.toNat else length - n.natAbs

/-- Change an item of a list, which is made long enough. -/
def changeItem (n : Int) (change : Value → Value) (items : List Value) : List Value :=
  let place := placeOf n items.length
  let items := items ++ List.replicate (place + 1 - items.length) .null
  items.set place (change (items[place]?.getD .null))

/-- Bind a value below another one. What is in the way of the path is replaced. -/
def assignBelow (v : Value) : List Step → Value → Value
  | [], _ => v
  | [.name name], target => .table (assign target.entries name v)
  | .name name :: rest, target =>
    .table (target.entries.put name
      (assignBelow v rest ((target.entries.get? name).getD .null)))
  | .index n :: rest, target => .list (changeItem n (assignBelow v rest) target.items)

def assignKey (t : Table Value) (key : String) (v : Value) : Table Value :=
  (assignBelow v (keyPath key) (.table t)).entries

/-- Bind the entries of one layer of settings over those of earlier layers, one after the other. -/
def overlay (t : Table Value) (layer : List (String × Value)) : Table Value :=
  layer.foldl (fun t e => assignKey t e.1 e.2) t

end GatewayRecipes.Settings
