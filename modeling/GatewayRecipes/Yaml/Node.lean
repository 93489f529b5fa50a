import GatewayRecipes.Yaml.Token

/-! The nodes of YAML documents. Keys are distinct within a record. -/
namespace GatewayRecipes.Yaml

inductive Scalar
  | null
  | bool (b : Bool)
  | int (n : Int)
  /-- A floating-point number as it is written. -/
  | real (written : String)
  | text (s : String)
  deriving Repr, DecidableEq, Inhabited

namespace Scalar

/-- An integer of 64 bits. -/
def int? (base : Nat) (text : List Char) : Option Int :=
  (Number.signed? base text).filter Number.fitsInt64

/-- The integer that a text writes: with the mark of a base, or in base ten. -/
def integer? (text : List Char) : Option Int :=
  let marked := match text with
    | '0' :: 'x' :: rest => int? 16 rest
    | '0' :: 'o' :: rest => int? 8 rest
    | '+' :: rest => int? 10 rest
    | _ => none
  marked.or (int? 10 text)

def isReal (text : String) : Bool :=
  [".inf", ".Inf", ".INF", "+.inf", "+.Inf", "+.INF", "-.inf", "-.Inf", "-.INF", ".nan",
    ".NAN"].contains text || (Number.float? text.toList).isSome

def ofPlain (text : String) : Scalar :=
  if text = "~" ∨ text = "null" then null
  else if text = "true" then bool true
  else if text = "false" then bool false
  else
    match integer? text.toList with
    | some n => int n
    | none => if isReal text then real text else Scalar.text text

/-- What a plain text stands for under a tag of the core schema, if it fits that. -/
def ofTagged? (tag text : String) : Option Scalar :=
  match tag with
  | "bool" => if text = "true" then some (bool true) else if text = "false" then some (bool false)
    else none
  | "int" => (int? 10 text.toList).map int
  | "float" => if isReal text then some (real text) else none
  | "null" => if text = "~" ∨ text = "null" then some null else none
  | _ => some (Scalar.text text)

/-- The text of a scalar as a key, if it may be one. -/
def key? : Scalar → Option String
  | null => none
  | bool b => some (if b then "true" else "false")
  | int n => some (toString n)
  | real written => some written
  | text s => some s

end Scalar

inductive Node
  | scalar (s : Scalar)
  | list (items : List Node)
  | record (entries : List (Node × Node))
  /-- A scalar that does not fit its tag, or an alias within the node that it stands for. -/
  | unknown
  deriving Inhabited

namespace Node

mutual

def same : Node → Node → Bool
  | scalar s, scalar s' => s = s'
  | list items, list items' => sameItems items items'
  | record entries, record entries' => sameEntries entries entries'
  | unknown, unknown => true
  | _, _ => false

def sameItems : List Node → List Node → Bool
  | [], [] => true
  | n :: rest, n' :: rest' => same n n' && sameItems rest rest'
  | _, _ => false

def sameEntries : List (Node × Node) → List (Node × Node) → Bool
  | [], [] => true
  | (k, n) :: rest, (k', n') :: rest' => same k k' && same n n' && sameEntries rest rest'
  | _, _ => false

end

/-- The text of a node as a key, if it may be one. -/
def key? : Node → Option String
  | scalar s => s.key?
  | _ => none

/-- Keys and values in turn. An unknown node is no key, and the node behind it takes its place. A
key at the end without a value is left out. -/
def entriesOf : List Node → List (Node × Node)
  | [] => []
  | unknown :: rest => entriesOf rest
  | key :: n :: rest => (key, n) :: entriesOf rest
  | [_] => []

def distinctKeys : List (Node × Node) → Bool
  | [] => true
  | (key, _) :: rest => !rest.any (fun e => key.same e.1) && distinctKeys rest

/-- The record of keys and values in turn. -/
def record? (nodes : List Node) : Option Node :=
  let entries := entriesOf nodes
  if distinctKeys entries then some (.record entries) else none

end Node

/-- Tokens while nodes are read from them, with what was declared before. -/
structure Reading where
  tokens : List Token
  /-- Tag prefixes by handle. -/
  tags : List (String × String)
  /-- Anchors by name, the last one first. -/
  anchors : List (String × Nat)
  /-- The nodes at anchors, as far as they were read. -/
  nodes : List (Nat × Node)

abbrev Reader := StateT Reading Option

namespace Reader

def fail {α : Type} : Reader α := fun _ => none

def peek? : Reader (Option Token) := fun r => some (r.tokens.head?, r)

def skip : Reader Unit := fun r => some ((), { r with tokens := r.tokens.drop 1 })

/-- Declare an anchor for a node that is still to be read. -/
def declare (name : String) : Reader Nat := fun r =>
  some (r.anchors.length, { r with anchors := (name, r.anchors.length) :: r.anchors })

/-- Keep the node at an anchor. -/
def keep (anchor : Option Nat) (n : Node) : Reader Node := fun r =>
  some (n, match anchor with
    | some id => { r with nodes := (id, n) :: r.nodes }
    | none => r)

def resolve (name : String) : Reader Node := fun r =>
  (r.anchors.lookup name).map fun id => ((r.nodes.lookup id).getD .unknown, r)

def corePrefix : String := "tag:yaml.org,2002:"

/-- The prefix that a tag handle stands for. Named handles must be declared. -/
def resolveTag (handle suffix : String) : Reader (String × String) := fun r =>
  match r.tags.lookup handle with
  | some declared => some ((declared, suffix), r)
  | none =>
    if handle = "!!" then some ((corePrefix, suffix), r)
    else if handle.length > 1 then none
    else some ((handle, suffix), r)

/-- Read an anchor and a tag, in any order, as far as they are there. -/
def properties : Reader (Option Nat × Option (String × String)) := do
  match ← peek? with
  | some (.anchor name) =>
    skip
    let id ← declare name
    match ← peek? with
    | some (.tag handle suffix) => do
      skip
      return (some id, some (← resolveTag handle suffix))
    | _ => return (some id, none)
  | some (.tag handle suffix) =>
    skip
    let tag ← resolveTag handle suffix
    match ← peek? with
    | some (.anchor name) => do
      skip
      return (some (← declare name), some tag)
    | _ => return (none, some tag)
  | _ => return (none, none)

/-- The node of a scalar. Only plain ones stand for something else than a text. -/
def scalarNode (tag : Option (String × String)) (plain : Bool) (text : String) : Node :=
  if plain then
    match tag with
    | none => .scalar (.ofPlain text)
    | some (handle, suffix) =>
      if handle = corePrefix then ((Scalar.ofTagged? suffix text).map Node.scalar).getD .unknown
      else .scalar (.text text)
  else .scalar (.text text)

def record (nodes : List Node) : Reader Node := fun r => (Node.record? nodes).map (·, r)

def empty : Node := .scalar .null

mutual

/-- Read a node. Blocks may be refused, and so may be lists that are not indented. -/
def node : (fuel : Nat) → (block unindented : Bool) → Reader Node
  | 0, _, _ => fail
  | fuel + 1, block, unindented => do
    match ← peek? with
    | some (.alias name) =>
      skip
      resolve name
    | _ =>
      let (anchor, tag) ← properties
      match ← peek? with
      | some (.scalar plain text) =>
        skip
        keep anchor (scalarNode tag plain text)
      | some .flowListStart =>
        skip
        keep anchor (.list (← flowItems fuel true))
      | some .flowRecordStart =>
        skip
        keep anchor (← record (← flowEntries fuel true))
      | t =>
        if t = some .item ∧ unindented then keep anchor (.list (← items fuel false))
        else if t = some .blockListStart ∧ block then do
          skip
          keep anchor (.list (← items fuel true))
        else if t = some .blockRecordStart ∧ block then do
          skip
          keep anchor (← record (← entries fuel))
        else if anchor.isSome || tag.isSome then keep anchor (scalarNode tag true "")
        else fail

/-- Read the items of a block. One that is not indented has no end of its own. -/
def items : (fuel : Nat) → (indented : Bool) → Reader (List Node)
  | 0, _ => fail
  | fuel + 1, indented => do
    match ← peek? with
    | some .item =>
      skip
      let next ← peek?
      let isEmpty := next == some .item || next == some .blockEnd ||
        (!indented && (next == some .key || next == some .value))
      let item ← if isEmpty then pure empty else node fuel true false
      return item :: (← items fuel indented)
    | t =>
      if indented then
        if t = some .blockEnd then skip else fail
      return []

/-- Read the entries of a block: keys and values in turn. -/
def entries : (fuel : Nat) → Reader (List Node)
  | 0 => fail
  | fuel + 1 => do
    match ← peek? with
    | some .blockEnd =>
      skip
      return []
    | some .key =>
      skip
      let key ← blockPart fuel
      let value ← blockValue fuel
      return key :: value :: (← entries fuel)
    | some .value =>
      let value ← blockValue fuel
      return empty :: value :: (← entries fuel)
    | _ => fail

/-- Read what follows the mark of a key or a value in a block. -/
def blockPart : (fuel : Nat) → Reader Node
  | 0 => fail
  | fuel + 1 => do
    match ← peek? with
    | some .key | some .value | some .blockEnd => return empty
    | _ => node fuel true true

/-- Read the value of a key in a block, if there is any. -/
def blockValue : (fuel : Nat) → Reader Node
  | 0 => fail
  | fuel + 1 => do
    match ← peek? with
    | some .value =>
      skip
      blockPart fuel
    | _ => return empty

def flowItems : (fuel : Nat) → (first : Bool) → Reader (List Node)
  | 0, _ => fail
  | fuel + 1, first => do
    match ← peek? with
    | some .flowListEnd =>
      skip
      return []
    | t =>
      unless first do
        if t = some .comma then skip else fail
      match ← peek? with
      | some .flowListEnd =>
        skip
        return []
      | some .key =>
        skip
        let key ← flowPart fuel
        let value ← flowValue fuel
        let entry ← record [key, value]
        return entry :: (← flowItems fuel false)
      | _ =>
        let item ← node fuel false false
        return item :: (← flowItems fuel false)

/-- Read entries between braces: keys and values in turn. -/
def flowEntries : (fuel : Nat) → (first : Bool) → Reader (List Node)
  | 0, _ => fail
  | fuel + 1, first => do
    match ← peek? with
    | some .flowRecordEnd =>
      skip
      return []
    | t =>
      unless first do
        if t = some .comma then skip else fail
      match ← peek? with
      | some .flowRecordEnd =>
        skip
        return []
      | some .key =>
        skip
        let key ← flowPart fuel
        let value ← flowValue fuel
        return key :: value :: (← flowEntries fuel false)
      | some .value =>
        let value ← flowValue fuel
        return empty :: value :: (← flowEntries fuel false)
      | _ =>
        let key ← node fuel false false
        return key :: empty :: (← flowEntries fuel false)

/-- Read what follows the mark of a key or a value between brackets. -/
def flowPart : (fuel : Nat) → Reader Node
  | 0 => fail
  | fuel + 1 => do
    match ← peek? with
    | some .value | some .comma | some .flowListEnd | some .flowRecordEnd => return empty
    | _ => node fuel false false

/-- Read the value of a key between brackets, if there is any. -/
def flowValue : (fuel : Nat) → Reader Node
  | 0 => fail
  | fuel + 1 => do
    match ← peek? with
    | some .value =>
      skip
      flowPart fuel
    | _ => return empty

end

/-- Read directives. Only the last one stays in force. -/
def directives : (fuel : Nat) → (versioned : Bool) → Reader Unit
  | 0, _ => return
  | fuel + 1, versioned => do
    match ← peek? with
    | some .versionDirective =>
      if versioned then fail
      else
        skip
        modify fun r => { r with tags := [] }
        directives fuel true
    | some (.tagDirective handle declared) =>
      skip
      modify fun r => { r with tags := [(handle, declared)] }
      directives fuel versioned
    | _ => return

def isBetween : Option Token → Bool
  | none | some .versionDirective | some (.tagDirective ..) | some .documentStart
  | some .documentEnd => true
  | _ => false

/-- Read a document that may start without a mark, or not. -/
def document (fuel : Nat) (unmarked : Bool) : Reader Node := do
  let bare := !isBetween (← peek?) && unmarked
  unless bare do
    directives fuel false
    if (← peek?) = some .documentStart then skip else fail
  if !bare && isBetween (← peek?) then return empty else node fuel true false

/-- Pass over the ends of documents. The answer tells whether there were any. -/
def documentEnds : (fuel : Nat) → Reader Bool
  | 0 => return false
  | fuel + 1 => do
    match ← peek? with
    | some .documentEnd =>
      skip
      discard (documentEnds fuel)
      return true
    | _ => return false

/-- Read documents. Directives need the end of a document before them. -/
def documents : (fuel : Nat) → (unmarked : Bool) → Reader (List Node)
  | 0, _ => fail
  | fuel + 1, unmarked => do
    discard (documentEnds fuel)
    match ← peek? with
    | none => return []
    | _ =>
      modify fun r => { r with anchors := [], nodes := [] }
      let n ← document fuel unmarked
      let ended ← documentEnds fuel
      modify fun r => { r with tags := [] }
      match ← peek? with
      | some .versionDirective | some (.tagDirective ..) => if !ended then fail
      | _ => pure ()
      return n :: (← documents fuel ended)

end Reader

def documents? (text : List Char) : Option (List Node) := do
  let tokens ← tokens? text
  let fuel := 3 * tokens.length + 3
  let (nodes, _) ← (Reader.documents fuel true).run ⟨tokens, [], [], []⟩
  return nodes

end GatewayRecipes.Yaml
