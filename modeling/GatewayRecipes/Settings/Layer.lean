import GatewayRecipes.Settings.Document
import GatewayRecipes.Settings.Key
import GatewayRecipes.Settings.Order
import GatewayRecipes.Settings.Reference
import GatewayRecipes.Text.Utf8

/-! Layers of settings: a file, and over it the variables of the environment. The entries of each come
in whatever order its table is gone through, and where keys meet the last one counts. -/
namespace GatewayRecipes.Settings

/-- The value of a variable: a truth value, an integer or a floating-point number if its text writes
one, else the text. -/
def variableValue (text : String) : Value :=
  match Text.lower text with
  | "true" => .bool true
  | "false" => .bool false
  | _ =>
    match (Number.signed? 10 text.toList).filter Number.fitsInt64 with
    | some n => .int n
    | none =>
      match Number.float? text.toList with
      | some x => .float x
      | none => .text text

/-- The key that a variable sets: its name in lower case behind the prefix and an underscore. -/
def variableKey? (namePrefix name : String) : Option String :=
  let start := (Text.lower (namePrefix ++ "_")).toList
  let name := (Text.lower name).toList
  if start.isPrefixOf name then some (String.ofList (name.drop start.length)) else none

/-- The entries that variables set. -/
def environmentLayer (namePrefix : String) (env : Environment) : List (String × Value) :=
  env.filterMap fun (name, text) =>
    (variableKey? namePrefix name).map fun key => (key, variableValue text)

/-- The variables of a layer by their keys. Of several with one key the last counts. -/
def environmentTable (namePrefix : String) (env : Environment) : Table Value :=
  Table.ofList (environmentLayer namePrefix env)

/-- The entries of a text in which references to variables are replaced first. -/
def textLayer (env : Environment) (format : Format) (text : String) : Except Error (Table Value) :=
  match format.read? (substitute env text) with
  | some entries => .ok entries
  | none => .error .malformed

def readText (read : FileReader) (path : String) : Except Error String :=
  match read path with
  | .error cause => .error (.file cause)
  | .ok content =>
    match Text.decodeUtf8 content with
    | .ok text => .ok (String.ofList text)
    | .error _ => .error (.file .notText)

/-- The entries of a file. Its format is found first. -/
def fileLayer (env : Environment) (read : FileReader) (path : String) :
    Except Error (Table Value) := do
  let format ← Format.detect path
  let text ← readText read path
  textLayer env format text

/-- The settings that the entries of a file make, gone through in an order. -/
def LoadOrder.ofFile (order : LoadOrder) (file : Table Value) : Table Value :=
  order.settings.arrange (overlay [] (order.file.arrange file))

/-- The settings that variables make over the entries of a file. -/
def LoadOrder.ofLayers (order : LoadOrder) (file environment : Table Value) : Table Value :=
  order.settings.arrange
    (overlay (overlay [] (order.file.arrange file)) (order.environment.arrange environment))

def fromText (env : Environment) (format : Format) (text : String)
    (order : LoadOrder := .asWritten) : Except Error (Table Value) :=
  (textLayer env format text).map order.ofFile

def loadFile (env : Environment) (read : FileReader) (path : String)
    (order : LoadOrder := .asWritten) : Except Error (Table Value) :=
  (fileLayer env read path).map order.ofFile

/-- The entries of the settings file, none where there is no file. -/
def fileEntries (env : Environment) (read : FileReader) :
    (path : Option String) → Except Error (Table Value)
  | some path => fileLayer env read path
  | none => .ok []

/-- The settings of a file, if there is one, under those of the environment. -/
def loadLayered (namePrefix : String) (env : Environment) (read : FileReader)
    (path : Option String) (order : LoadOrder := .asWritten) : Except Error (Table Value) := do
  let file ← fileEntries env read path
  return order.ofLayers file (environmentTable namePrefix env)

/-- Settings of some form, if they have that. -/
def decodeWith {α : Type} (decode : Table Value → Option α) (t : Table Value) : Except Error α :=
  match decode t with
  | some a => .ok a
  | none => .error .malformed

end GatewayRecipes.Settings
