import GatewayRecipes.CommandLine.Run

/-! The program `gatedef`. -/
namespace GatewayRecipes.Program

def splitZeros (bytes : List UInt8) : List (List UInt8) :=
  (bytes.splitOn 0).filter (!·.isEmpty)

/-- The variables of the environment, as they are kept by the system. -/
def readEnvironment : IO Settings.Environment := do
  let bytes ← try IO.FS.readBinFile "/proc/self/environ" catch _ => pure ByteArray.empty
  return (splitZeros bytes.toList).filterMap fun entry =>
    match Text.decodeUtf8 entry with
    | .ok text =>
      some (String.ofList (text.takeWhile (· != '=')),
        String.ofList ((text.dropWhile (· != '=')).drop 1))
    | .error _ => none

def fileError : IO.Error → FileError
  | .noFileOrDirectory .. => .notFound
  | .permissionDenied .. => .permissionDenied
  | .inappropriateType _ code _ => if code = 20 then .notADirectory else .isADirectory
  | .invalidArgument _ code _ => if code = 36 then .nameTooLong else .other code.toNat
  | .otherError code _ => .other code.toNat
  | _ => .other 5

def readFile (path : String) : IO (String × Except FileError (List UInt8)) := do
  try return (path, .ok (← IO.FS.readBinFile path).toList)
  catch e => return (path, .error (fileError e))

/-- Run the program in the world: read what it may need, print what it leaves behind. -/
def execute (arguments : List String) : IO UInt32 := do
  let environment ← readEnvironment
  let files ← (CommandLine.filesRead environment arguments).mapM readFile
  let read : FileReader := fun path => (files.lookup path).getD (.error .notFound)
  let terminal ← (← IO.getStdout).isTty
  let outcome := CommandLine.run ⟨arguments, environment, read, terminal⟩
  for entry in outcome.log do
    IO.eprintln entry.line
  IO.print outcome.output
  for error in outcome.error do
    IO.eprintln error
  if outcome.code = 2 then IO.eprint CommandLine.usage
  return UInt32.ofNat outcome.code

end GatewayRecipes.Program

def main (arguments : List String) : IO UInt32 := GatewayRecipes.Program.execute arguments
