import GatewayRecipes.CommandLine.Arguments
import GatewayRecipes.Log.Filter
import GatewayRecipes.Output.GrammarTable
import GatewayRecipes.Registry.Basic

/-! The commands: what each prints, logs and answers for the files that it reads. -/
namespace GatewayRecipes.CommandLine

/-- What a run of the program leaves behind. -/
structure Outcome where
  code : Nat
  output : String
  /-- What is said of a failure. -/
  error : Option String
  log : List LogEntry
  deriving Repr, DecidableEq, Inhabited

/-- Lines with their ends. -/
def unlines (lines : List String) : String := String.join (lines.map (· ++ "\n"))

def translatedEntry (file : String) (count : Nat) : LogEntry :=
  ⟨.info, "gatedef::commands::translate", "translated document",
    [⟨"file", file, false⟩, ⟨"count", toString count, false⟩]⟩

def loadDefinitions (read : FileReader) (file : String) : Traced Report (Registry × Nat) :=
  Registry.standard.loadFile read file

/-- Definitions as they are printed. Formats for other programs end their text with a line end of
their own. -/
def printDefinitions (colour : Bool) (format : Output.Format) (definitions : Table Recipe) :
    String :=
  match format.structured? (Output.definitionsData definitions) with
  | some text => text ++ "\n"
  | none => Output.outline colour definitions

def translate (colour : Bool) (format : Output.Format) (read : FileReader) (file : String) :
    Outcome :=
  let load := loadDefinitions read file
  let log := load.notices.map Notice.entry
  match load.result with
  | .ok (r, count) =>
    ⟨0, printDefinitions colour format r.definitions, none, log ++ [translatedEntry file count]⟩
  | .error report => ⟨1, "", some report.line, log⟩

/-- What was found about a document. -/
structure Validation where
  file : String
  valid : Bool
  definitions : Nat
  errors : List String
  deriving Repr, DecidableEq, Inhabited

namespace Validation

def ofResult (file : String) : Except Report (Registry × Nat) → Validation
  | .ok (_, count) => ⟨file, true, count, []⟩
  | .error report => ⟨file, false, 0, report.chain⟩

def data (v : Validation) : Output.Data :=
  .record [("file", .text v.file), ("valid", .bool v.valid), ("definitions", .number v.definitions),
    ("errors", .list (v.errors.map .text))]

def lines (colour : Bool) (v : Validation) : List String :=
  if v.valid then
    [String.ofList (Output.paint colour .green "✓") ++ " " ++ v.file ++ " is valid (" ++
      toString v.definitions ++ " definitions)"]
  else
    (String.ofList (Output.paint colour .red "✗") ++ " " ++ v.file ++ " is invalid") ::
      v.errors.map ("  " ++ ·)

end Validation

def validate (colour : Bool) (format : Output.Format) (read : FileReader) (file : String) :
    Outcome :=
  let load := loadDefinitions read file
  let v := Validation.ofResult file load.result
  let output := match format.structured? v.data with
    | some text => text ++ "\n"
    | none => unlines (v.lines colour)
  ⟨if v.valid then 0 else 1, output, none, load.notices.map Notice.entry⟩

def info (colour : Bool) (format : Output.Format) : Outcome :=
  let output := match format.structured? (Output.grammarData Output.grammar) with
    | some text => text ++ "\n"
    | none => unlines (Output.grammarLines colour Output.grammar)
  ⟨0, output, none, []⟩

def Command.run (colour : Bool) (format : Output.Format) (read : FileReader) : Command → Outcome
  | translate file => CommandLine.translate colour format read file
  | validate file => CommandLine.validate colour format read file
  | info => CommandLine.info colour format

end GatewayRecipes.CommandLine
