import GatewayRecipes.Table

/-! Reading files, and a directory as a value: the files below it by their relative paths. -/
namespace GatewayRecipes

inductive FileError
  | notFound
  | notADirectory
  | isADirectory
  | nameTooLong
  /-- A path with a zero character. -/
  | zeroInPath
  /-- A file that should hold text and does not. -/
  | notText
  | permissionDenied
  /-- Any other failure, with its code. -/
  | other (code : Nat)
  deriving Repr, DecidableEq, Inhabited

namespace FileError

/-- The name of the sort of an error. -/
def kind : FileError → String
  | notFound => "NotFound"
  | notADirectory => "NotADirectory"
  | isADirectory => "IsADirectory"
  | nameTooLong => "InvalidFilename"
  | zeroInPath => "InvalidInput"
  | notText => "InvalidData"
  | permissionDenied => "PermissionDenied"
  | other _ => "Other"

def message : FileError → String
  | notFound => "No such file or directory (os error 2)"
  | notADirectory => "Not a directory (os error 20)"
  | isADirectory => "Is a directory (os error 21)"
  | nameTooLong => "File name too long (os error 36)"
  | zeroInPath => "file name contained an unexpected NUL byte"
  | notText => "stream did not contain valid UTF-8"
  | permissionDenied => "Permission denied (os error 13)"
  | other code => "Input/output error (os error " ++ toString code ++ ")"

end FileError

abbrev FileReader := String → Except FileError (List UInt8)

/-- Whether a path leads to a file, be it one that may not be read. -/
def FileReader.finds (read : FileReader) (path : String) : Bool :=
  match read path with
  | .ok _ => true
  | .error e => e == .permissionDenied

def splitSlashes (path : List Char) : List (List Char) :=
  match path with
  | [] => [[]]
  | c :: rest =>
    if c = '/' then [] :: splitSlashes rest
    else
      match splitSlashes rest with
      | first :: more => (c :: first) :: more
      | [] => [[c]]

/-- The components of a path as they are written. -/
def pathComponents (path : String) : List String := (splitSlashes path.toList).map String.ofList

/-- The files below a directory, by relative paths with slashes. -/
structure Directory where
  files : Table (List UInt8)
  deriving Repr, Inhabited

namespace Directory

/-- What stands at a place below a directory. -/
inductive Entry
  | file (content : List UInt8)
  | directory
  deriving Repr

/-- The components of a path that name something. -/
def plainComponents (path : String) : List String :=
  (pathComponents path).filter fun c => c != "" && c != "."

/-- What stands at a place that is given by plain components. -/
def entry? (d : Directory) (place : List String) : Option Entry :=
  match d.files.find? (fun f => plainComponents f.1 == place) with
  | some f => some (.file f.2)
  | none =>
    if place.isEmpty || d.files.any (fun f => place.isPrefixOf (plainComponents f.1)) then
      some .directory
    else none

/-- Where a path has led so far: to a place below the directory, or above it. -/
inductive Place
  | below (components : List String)
  | above
  deriving Repr

/-- Follow a path. Above the directory nothing is known to exist but directories. -/
def follow (d : Directory) : Place → List String → Except FileError Entry
  | .above, [] => .ok .directory
  | .above, c :: rest =>
    if c = "" ∨ c = "." ∨ c = ".." then follow d .above rest else .error .notFound
  | .below place, [] =>
    match d.entry? place with
    | some e => .ok e
    | none => .error .notFound
  | .below place, c :: rest =>
    match d.entry? place with
    | none => .error .notFound
    | some (.file _) => .error .notADirectory
    | some .directory =>
      if c = "" ∨ c = "." then follow d (.below place) rest
      else if c = ".." then
        follow d (if place.isEmpty then .above else .below place.dropLast) rest
      else if c.utf8ByteSize > 255 then .error .nameTooLong
      else follow d (.below (place ++ [c])) rest

def lookup (d : Directory) (path : String) : Except FileError Entry :=
  if path.toList.contains '\x00' then .error .zeroInPath
  else if path.utf8ByteSize > 4095 then .error .nameTooLong
  else
    match path.toList with
    | [] => .error .notFound
    | '/' :: _ => d.follow .above (pathComponents path)
    | _ => d.follow (.below []) (pathComponents path)

def read (d : Directory) : FileReader := fun path =>
  match d.lookup path with
  | .ok (.file content) => .ok content
  | .ok .directory => .error .isADirectory
  | .error e => .error e

def write (d : Directory) (path : String) (content : List UInt8) : Directory :=
  ⟨d.files.put path content⟩

end Directory
end GatewayRecipes
