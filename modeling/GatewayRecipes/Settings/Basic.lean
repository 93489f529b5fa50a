import GatewayRecipes.Output.Format
import GatewayRecipes.Settings.Layer

/-! The settings of the command line: an output format and a log level. -/
namespace GatewayRecipes

structure Settings where
  output : Output.Format
  logLevel : String
  deriving Repr, DecidableEq, Inhabited

def Output.Format.ofName? : String → Option Output.Format
  | "text" => some .text
  | "json" => some .json
  | "yaml" => some .yaml
  | _ => none

namespace Settings

/-- Settings where nothing is set. -/
def standard : Settings := ⟨.text, "warn"⟩

/-- The settings file that is used where none is named. -/
def defaultFile : String := "gatedef.toml"

def variablePrefix : String := "GATEDEF"

/-- An output format: its name, or a table with its name as the only key, in any case of letters. -/
def readFormat? : Value → Option Output.Format
  | .text s => Output.Format.ofName? (Text.lower s)
  | .table [(key, _)] => Output.Format.ofName? (Text.lower key)
  | _ => none

/-- A field of settings, or what stands for it where it is not set. -/
def field? {α : Type} (t : Table Value) (key : String) (read : Value → Option α) (standard : α) :
    Option α :=
  match t.get? key with
  | some v => read v
  | none => some standard

/-- Settings in a table. Other keys are passed over. -/
def ofTable? (t : Table Value) : Option Settings := do
  let output ← field? t "output" readFormat? standard.output
  let logLevel ← field? t "log_level" Value.text? standard.logLevel
  return ⟨output, logLevel⟩

/-- The file that settings are read from: a named one, or the default one if it is there. -/
def filePath? (read : FileReader) (path : Option String) : Option String :=
  path.or (if read.finds defaultFile then some defaultFile else none)

def load (env : Environment) (read : FileReader) (path : Option String)
    (order : LoadOrder := .asWritten) : Except Error Settings := do
  decodeWith ofTable? (← loadLayered variablePrefix env read (filePath? read path) order)

end Settings
end GatewayRecipes
