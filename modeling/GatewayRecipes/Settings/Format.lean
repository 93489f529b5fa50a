import GatewayRecipes.Files
import GatewayRecipes.Text.Casing

/-! Settings formats, found by the extension of a file name, and the errors of settings. -/
namespace GatewayRecipes.Settings

inductive Format
  | yaml
  | toml
  | json
  deriving Repr, DecidableEq, Inhabited

/-- Why there are no settings. -/
inductive Error
  /-- The file cannot be read. -/
  | file (cause : FileError)
  /-- The text has not the form of its format, or not the form of settings. -/
  | malformed
  /-- The extension is that of no format. -/
  | unsupported (extension : Option String)
  deriving Repr, DecidableEq, Inhabited

/-- The message of an error, without what is wrong with a text. -/
def Error.message : Error → String
  | file cause => "IO error: " ++ cause.message
  | malformed => "Config parsing error: "
  | unsupported e => "Unsupported format: " ++ e.getD "No file extension found"

def fileName? (path : String) : Option String :=
  (Directory.plainComponents path).getLast?.filter (· != "..")

/-- What stands behind the last point of a file name, if something stands before that. -/
def extensionOf? (name : String) : Option String :=
  let behind := name.toList.reverse.takeWhile (· != '.')
  if behind.length + 1 < name.length then some (String.ofList behind.reverse) else none

def extension? (path : String) : Option String := (fileName? path).bind extensionOf?

/-- The format that an extension stands for, in any case of its letters. -/
def Format.ofExtension? (extension : String) : Option Format :=
  match Text.lower extension with
  | "yaml" | "yml" => some .yaml
  | "toml" => some .toml
  | "json" => some .json
  | _ => none

def Format.detect (path : String) : Except Error Format :=
  match (extension? path).bind Format.ofExtension? with
  | some format => .ok format
  | none => .error (.unsupported (extension? path))

end GatewayRecipes.Settings
