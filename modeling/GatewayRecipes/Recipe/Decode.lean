import GatewayRecipes.Json.Number
import GatewayRecipes.Recipe.Data

/-! Recipes read back from JSON. Structures may be records, whose unknown fields are passed over, or
lists of their parts. A text fails by the first problem in it: a shape that is wrong, or text that
is not JSON. -/
namespace GatewayRecipes

inductive DecodeError
  /-- The text is not JSON, or nested too deep. -/
  | malformed
  /-- The text ends too early. -/
  | truncated
  /-- The text is JSON of another shape. -/
  | mismatch
  deriving Repr, DecidableEq, Inhabited

namespace Decode
open Json

def ofProblem : Problem → DecodeError
  | .malformed => .malformed
  | .truncated => .truncated

abbrev Decoded (α : Type) := Except DecodeError α

/-- Fail by a problem, if there is one. -/
def refuse : Option Problem → Decoded Unit
  | some p => .error (ofProblem p)
  | none => .ok ()

/-- How a value comes: straight from the text, or kept from an earlier place in it. A kept value is
known to be well-formed, and all its faults are faults of shape. -/
inductive Source
  | direct
  | kept
  deriving Repr, DecidableEq

/-- The fault of the source where more stands in the text than belongs there. -/
def Source.excess : Source → DecodeError
  | direct => .malformed
  | kept => .mismatch

/-- The error of a value that is not of the wanted sort. Scalars are read before that is said. -/
def wrongSort : Tree → DecodeError
  | .number n => if n.isFinite then .mismatch else .malformed
  | .text (.error p) => ofProblem p
  | .broken _ read _ => ofProblem read
  | _ => .mismatch

/-- Whether a value opens a level of nesting. -/
def opensLevel : Tree → Bool
  | .list .. | .record .. | .keyless .. => true
  | _ => false

/-- The error where no more level of nesting is allowed. -/
def atLimit (t : Tree) : DecodeError := if opensLevel t then .malformed else wrongSort t

def text : Tree → Decoded String
  | .text (.ok s) => .ok s
  | t => .error (wrongSort t)

def key (k : Except Problem String) : Decoded String := k.mapError ofProblem

/-- Read nothing, which is what belongs to a bare name. A kept empty record is nothing too. -/
def unit (source : Source) : Tree → Decoded Unit
  | .null => .ok ()
  | .record [] .closed => if source = .kept then .ok () else .error .mismatch
  | t => .error (wrongSort t)

/-- The end behind the last part of a value. -/
def finish (source : Source) (excess : Bool) : Ending → Decoded Unit
  | .closed => if excess then .error source.excess else .ok ()
  | .broken afterComma p =>
    if excess || afterComma then .error source.excess else .error (ofProblem p)
  | .brokenKey .. => .error source.excess

/-- Read a name out of a choice: a text, or the only key of a record whose value is nothing. -/
def choice {α : Type} (source : Source) (levels : Nat) (find? : String → Option α) (t : Tree) :
    Decoded α :=
  let find (s : String) : Decoded α := match find? s with
    | some a => .ok a
    | none => .error .mismatch
  match t with
  | .text (.ok s) => find s
  | .text (.error p) => .error (ofProblem p)
  | .record fields ending =>
    if levels = 0 then .error .malformed
    else
      match fields, ending with
      | (k, v) :: rest, ending => do
        let a ← find (← key k)
        unit source v
        finish source (!rest.isEmpty) ending
        return a
      | [], .closed => .error source.excess
      | [], .broken _ p => .error (ofProblem p)
      | [], .brokenKey read _ => .error (ofProblem read)
  | .keyless _ p => .error (if levels = 0 then .malformed else ofProblem p)
  | .broken none read _ => .error (ofProblem read)
  | .broken (some '"') read _ => .error (ofProblem read)
  | _ => .error source.excess

mutual

/-- The first problem of a value that is read to be kept. -/
def keepProblem : (levels : Nat) → Tree → Option Problem
  | _, .null | _, .bool _ | _, .text (.ok _) => none
  | _, .number n => if n.isFinite then none else some .malformed
  | _, .text (.error p) => some p
  | 0, .list .. | 0, .record .. | 0, .keyless .. => some .malformed
  | levels + 1, .list items ending => (keepItems levels items).or ending.readProblem
  | levels + 1, .record fields ending => (keepFields levels fields).or ending.readProblem
  | _ + 1, .keyless _ p => some p
  | _, .broken _ read _ => some read

def keepItems : (levels : Nat) → List Tree → Option Problem
  | _, [] => none
  | levels, t :: rest => (keepProblem levels t).or (keepItems levels rest)

def keepFields : (levels : Nat) → List (Except Problem String × Tree) → Option Problem
  | _, [] => none
  | levels, (k, t) :: rest =>
    match k with
    | .error p => some p
    | .ok _ => (keepProblem levels t).or (keepFields levels rest)

end

/-- The end of a list that is too short, or of a record that lacks a field. -/
def missing {α : Type} (ending : Ending) : Decoded α :=
  match ending.readProblem with
  | some p => .error (ofProblem p)
  | none => .error .mismatch

/-- A structure of two parts, as a list. -/
def pairItems {α β : Type} (source : Source) (first : Tree → Decoded α)
    (second : α → Tree → Decoded β)
    (items : List Tree) (ending : Ending) : Decoded (α × β) :=
  match items with
  | [] => missing ending
  | a :: rest => do
    let a ← first a
    match rest with
    | [] => missing ending
    | b :: rest =>
      let b ← second a b
      finish source (!rest.isEmpty) ending
      return (a, b)

/-- Read the fields of a structure of two independent parts. Each comes once, in any order. -/
def structFields {α β : Type} (names : String × String) (first : Tree → Decoded α)
    (second : Tree → Decoded β) (ending : Ending) :
    Option α → Option β → List (Except Problem String × Tree) → Decoded (α × β)
  | a, b, [] => do
    refuse ending.readProblem
    match a, b with
    | some a, some b => return (a, b)
    | _, _ => .error .mismatch
  | a, b, (k, t) :: rest => do
    let k ← key k
    if k = names.1 then
      if a.isSome then .error .mismatch
      else structFields names first second ending (some (← first t)) b rest
    else if k = names.2 then
      if b.isSome then .error .mismatch
      else structFields names first second ending a (some (← second t)) rest
    else
      refuse t.skipProblem
      structFields names first second ending a b rest

/-- The fields from the next one of two names on, after other fields. The answer says whether that
is the first name. -/
def nextField (names : String × String) (ending : Ending) :
    List (Except Problem String × Tree) →
      Decoded (Option (Bool × Tree × List (Except Problem String × Tree)))
  | [] => do
    refuse ending.readProblem
    return none
  | (k, t) :: rest => do
    let k ← key k
    if k = names.1 then return some (true, t, rest)
    else if k = names.2 then return some (false, t, rest)
    else
      refuse t.skipProblem
      nextField names ending rest

/-- Read the fields of a structure whose second part is read by what the first one says. Where the
second part comes first it is kept until the first one is known. -/
def taggedFields {α β : Type} (names : String × String) (source : Source) (levels : Nat)
    (tag : Tree → Decoded α) (content : Source → α → Tree → Decoded β) (ending : Ending)
    (fields : List (Except Problem String × Tree)) : Decoded (α × β) := do
  match ← nextField names ending fields with
  | none => .error .mismatch
  | some (true, t, rest) =>
    let a ← tag t
    match ← nextField names ending rest with
    | some (false, c, rest) =>
      let b ← content source a c
      match ← nextField names ending rest with
      | none => return (a, b)
      | some _ => .error .mismatch
    | _ => .error .mismatch
  | some (false, c, rest) =>
    refuse (keepProblem levels c)
    match ← nextField names ending rest with
    | some (true, t, rest) =>
      let a ← tag t
      let b ← content .kept a c
      match ← nextField names ending rest with
      | none => return (a, b)
      | some _ => .error .mismatch
    | _ => .error .mismatch

/-- Read the tag at the head of a list: a name, or in a kept list the place of one. -/
def listTag {α : Type} (source : Source) (sorts : List (String × α)) (t : Tree) : Decoded α :=
  let sort? (t : Option α) : Decoded α := match t with
    | some a => .ok a
    | none => .error .mismatch
  match source, t with
  | .kept, .number n =>
    match n.number? with
    | some (.int i) => sort? (if 0 ≤ i then (sorts[i.toNat]?).map (·.2) else none)
    | _ => .error .mismatch
  | _, t => do sort? (sorts.lookup (← text t))

/-- Read a structure whose second part is read by what the first one says. -/
def tagged {α β : Type} (names : String × String) (source : Source) (levels : Nat)
    (sorts : List (String × α)) (content : Source → α → Tree → Decoded β) :
    Tree → Decoded (α × β)
  | .list items ending => pairItems source (listTag source sorts) (content source) items ending
  | .record fields ending =>
    taggedFields names source levels (choice source levels (List.lookup · sorts)) content ending
      fields
  | .keyless _ p => .error (ofProblem p)
  | t => .error (wrongSort t)

inductive ExpressionSort
  | literal
  | computed

def ExpressionSort.named : List (String × ExpressionSort) :=
  [("literal", literal), ("computed", computed)]

def ExpressionSort.expression : ExpressionSort → String → Expression
  | literal, s => .literal s
  | computed, s => .computed s

inductive ValueSort
  | value
  | reference
  | expression
  | recipe
  | map

def ValueSort.named : List (String × ValueSort) :=
  [("value", value), ("reference", reference), ("expression", expression), ("recipe", recipe),
    ("map", map)]

/-- Read an expression with some levels of nesting left. -/
def expression (source : Source) : (levels : Nat) → Tree → Decoded Expression
  | 0, t => .error (atLimit t)
  | levels + 1, t => do
    let (_, e) ← tagged ("kind", "source") source levels ExpressionSort.named
      (fun _ sort t => (text t).map sort.expression) t
    return e

/-- Read the fields of a table. A repeated key keeps its first place and takes the last value. -/
def tableFields {α : Type} (item : Tree → Decoded α) (ending : Ending) :
    Table α → List (Except Problem String × Tree) → Decoded (Table α)
  | table, [] => do
    refuse ending.readProblem
    return table
  | table, (k, t) :: rest => do
    let k ← key k
    tableFields item ending (table.put k (← item t)) rest

mutual

def value (source : Source) : (levels : Nat) → Tree → Decoded PropertyValue
  | 0, t => .error (atLimit t)
  | levels + 1, t => do
    let (_, v) ← tagged ("type", "value") source levels ValueSort.named
      (fun source sort t => match sort with
        | .value => (text t).map .value
        | .reference => (text t).map .reference
        | .expression => (expression source levels t).map .expression
        | .recipe => (recipe source levels t).map .recipe
        | .map => (table source levels t).map .map) t
    return v

def recipe (source : Source) : (levels : Nat) → Tree → Decoded Recipe
  | 0, t => .error (atLimit t)
  | levels + 1, t => do
    let kind := choice source levels RecipeKind.ofName?
    let (kind, properties) ← match t with
      | .list items ending =>
        pairItems source kind (fun _ => table source levels) items ending
      | .record fields ending =>
        structFields ("kind", "properties") kind (table source levels) ending none none fields
      | .keyless _ p => .error (ofProblem p)
      | t => .error (wrongSort t)
    return ⟨kind, properties⟩

/-- Read a table of property values with some levels of nesting left. -/
def table (source : Source) : (levels : Nat) → Tree → Decoded (Table PropertyValue)
  | 0, t => .error (atLimit t)
  | levels + 1, .record fields ending => tableFields (value source levels) ending [] fields
  | _ + 1, .keyless _ p => .error (ofProblem p)
  | _ + 1, t => .error (wrongSort t)

end

def maxLevels : Nat := 127

end Decode

def Recipe.ofJson? (json : String) : Except DecodeError Recipe :=
  let (tree, rest) := Json.readText json.toList
  match Decode.recipe .direct Decode.maxLevels tree with
  | .error e => .error e
  | .ok r => if rest.any Json.isEnd then .ok r else .error .malformed

end GatewayRecipes
