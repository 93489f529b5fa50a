import GatewayRecipes.Log
import GatewayRecipes.Number.Integer
import GatewayRecipes.Text.Blank
import GatewayRecipes.Text.Quoted

/-! Log entries as lines, and filters that choose among them by level, target and
field. -/
namespace GatewayRecipes

/-- An entry of the log: its target names the part of the program that it comes from. -/
structure LogEntry where
  level : LogLevel
  target : String
  message : String
  fields : List LogField
  deriving Repr, DecidableEq, Inhabited

namespace LogLevel

def name : LogLevel → String
  | error => "ERROR"
  | warn => "WARN"
  | info => "INFO"
  | debug => "DEBUG"
  | trace => "TRACE"

/-- How far down a level is. -/
def rank : LogLevel → Nat
  | error => 1
  | warn => 2
  | info => 3
  | debug => 4
  | trace => 5

end LogLevel

/-- The part of the program that a notice comes from. -/
def Notice.target : Notice → String
  | .methodRepeated .. | .gatewayTranslated .. => "gatedef_kernel::gateway::translator"
  | .parseCalled .. => "gatedef_testing::recorder"
  | .definitionRegistered .. | .definitionsLoaded .. => "gatedef_kernel::registry"

def Notice.entry (n : Notice) : LogEntry := ⟨n.level, n.target, n.message, n.fields⟩

def LogField.written (f : LogField) : String :=
  f.key ++ "=" ++ (if f.quoted then Text.quoted f.text else f.text)

def LogEntry.line (e : LogEntry) : String :=
  " ".intercalate
    ((e.level.name ++ " " ++ e.target ++ ":") :: e.message :: e.fields.map (·.written))

/-- A part of a filter: how many levels are shown of the entries whose targets begin with some
text and which have some field. -/
structure LogDirective where
  target : String
  /-- The name of a field that an entry must have. -/
  field : Option String
  levels : Nat
  deriving Repr, DecidableEq, Inhabited

namespace LogDirective

/-- The number of levels that a word or a number shows. -/
def levels? (word : List Char) : Option Nat :=
  match String.ofList (word.map Char.toLower) with
  | "off" => some 0
  | "error" => some 1
  | "warn" => some 2
  | "info" => some 3
  | "debug" => some 4
  | "trace" => some 5
  | _ =>
    let digits := match word with
      | '+' :: rest => rest
      | rest => rest
    (Number.natural? 10 digits).filter (· ≤ 5)

/-- The number of levels that is asked for behind a target. No word means all of them. -/
def assigned? (word : List Char) : Option Nat := if word.isEmpty then some 5 else levels? word

def startsTarget (c : Char) : Bool := c.isAlphanum || c == '_' || c == '-' || c == ':'

/-- Read a field name in braces and brackets, behind the opening bracket. Only blanks or levels
may follow. -/
def readField? (text : List Char) : Option (String × Nat) :=
  match text with
  | '\x7b' :: rest =>
    let name := rest.takeWhile (· != '\x7d')
    if name.isEmpty || name.contains '=' then none
    else
      match rest.drop name.length with
      | '\x7d' :: ']' :: '=' :: word => (assigned? word).map (String.ofList name, ·)
      | '\x7d' :: ']' :: behind =>
        if behind.all Text.isBlank then some (String.ofList name, 5) else none
      | _ => none
  | _ => none

/-- Read a directive: levels for all targets, or a target or a field or both, with levels or all of
them. Other directives concern nothing that is logged here: there are no spans. -/
def parse? (text : List Char) : Option LogDirective :=
  let target := text.takeWhile fun c => c != '=' && c != '['
  if !(target.isEmpty || target.head?.any startsTarget) then none
  else
    match text.drop target.length with
    | '[' :: rest => (readField? rest).map fun (name, n) => ⟨String.ofList target, some name, n⟩
    | '=' :: word =>
      if target.isEmpty then none
      else (assigned? word).map fun n => ⟨String.ofList target, none, n⟩
    | _ =>
      if target.isEmpty then none
      else
        match levels? target with
        | some n => some ⟨"", none, n⟩
        | none => some ⟨String.ofList target, none, 5⟩

/-- Whether a directive concerns an entry. Every entry has a field for its message. -/
def concerns (d : LogDirective) (e : LogEntry) : Bool :=
  d.target.toList.isPrefixOf e.target.toList &&
    d.field.all fun name => ("message" :: e.fields.map (·.key)).contains name

/-- Whether a directive is at least as specific as another one that concerns the same entry: by its
target, then by having a field, then by the name of that. -/
def refines (d other : LogDirective) : Bool :=
  match compare d.target.length other.target.length with
  | .gt => true
  | .lt => false
  | .eq =>
    match d.field, other.field with
    | some name, some otherName => otherName ≤ name
    | none, some _ => false
    | _, none => true

/-- The more specific one of two directives, the later one where they say it of the same entries. -/
def choose (best : Option LogDirective) (d : LogDirective) : Option LogDirective :=
  match best with
  | none => some d
  | some b => if d.refines b then some d else some b

end LogDirective

/-- Directives in the order in which they are written. -/
abbrev LogFilter := List LogDirective

namespace LogFilter

def splitCommas : List Char → List (List Char)
  | [] => [[]]
  | c :: rest =>
    if c = ',' then [] :: splitCommas rest
    else
      match splitCommas rest with
      | first :: more => (c :: first) :: more
      | [] => [[c]]

/-- Read a filter: directives between commas. What is no directive is passed over. -/
def parse (text : String) : LogFilter :=
  (splitCommas text.toList).filterMap LogDirective.parse?

/-- Whether an entry is shown: by the most specific directive that concerns it. -/
def shows (f : LogFilter) (e : LogEntry) : Bool :=
  ((f.filter (·.concerns e)).foldl LogDirective.choose none).any fun d =>
    e.level.rank ≤ d.levels

end LogFilter
end GatewayRecipes
