import GatewayRecipes.Settings.Basic

/-! Arguments of the command line. Options may stand before and behind the name of the command; what
stands behind it wins. -/
namespace GatewayRecipes.CommandLine

inductive Command
  /-- Translate a document and print its definitions. -/
  | translate (file : String)
  /-- Check that a document translates. -/
  | validate (file : String)
  /-- Print the attribute grammar. -/
  | info
  deriving Repr, DecidableEq, Inhabited

structure Arguments where
  verbose : Bool
  output : Option Output.Format
  config : Option String
  command : Command
  deriving Repr, DecidableEq, Inhabited

inductive CommandName
  | translate
  | validate
  | info
  | help
  deriving Repr, DecidableEq, Inhabited

namespace CommandName

def ofName? : String → Option CommandName
  | "translate" => some translate
  | "validate" => some validate
  | "info" => some info
  | "help" => some help
  | _ => none

def takesFile : CommandName → Bool
  | translate | validate => true
  | info | help => false

def text : CommandName → String
  | translate => "translate"
  | validate => "validate"
  | info => "info"
  | help => "help"

end CommandName

/-- Why a command line runs no command. -/
inductive Stop
  | help
  /-- The version is asked for, of the program or of a command. -/
  | version (command : Option CommandName)
  /-- There is nothing at all on the command line. -/
  | nothingGiven
  | commandMissing
  | unknownCommand
  | unknownArgument
  | fileMissing
  | invalidValue
  /-- A flag is given a value. -/
  | needlessValue
  /-- An option is given twice in one place. -/
  | repeated
  deriving Repr, DecidableEq, Inhabited

def Stop.code : Stop → Nat
  | help | version _ => 0
  | _ => 2

/-- What takes a value. -/
inductive Slot
  | output
  | config
  | file
  deriving Repr, DecidableEq, Inhabited

/-- What was given before the name of the command, or behind it. -/
structure Given where
  verbose : Bool
  output : Option Output.Format
  config : Option String
  file : Option String
  /-- A value that is not read yet, or an option that still waits for it. -/
  waiting : Option (Slot × Option String)
  deriving Repr, DecidableEq, Inhabited

namespace Given

def nothing : Given := ⟨false, none, none, none, none⟩

def take (g : Given) (slot : Slot) (value : String) : Except Stop Given :=
  match slot with
  | .output =>
    if g.output.isSome then .error .repeated
    else
      match Output.Format.ofName? value with
      | some f => .ok { g with output := some f }
      | none => .error .invalidValue
  | .config =>
    if g.config.isSome then .error .repeated
    else if value.isEmpty then .error .invalidValue
    else .ok { g with config := some value }
  | .file => if value.isEmpty then .error .invalidValue else .ok { g with file := some value }

/-- Read the value that waits. -/
def settle (g : Given) : Except Stop Given :=
  match g.waiting with
  | none => .ok g
  | some (_, none) => .error .invalidValue
  | some (slot, some value) => { g with waiting := none }.take slot value

/-- An option that stands alone: its value is the next argument. -/
def await (g : Given) (slot : Slot) : Except Stop Given := do
  return { ← g.settle with waiting := some (slot, none) }

/-- An option with its value. -/
def attach (g : Given) (slot : Slot) (value : String) : Except Stop Given := do
  (← g.settle).take slot value

def setVerbose (g : Given) : Except Stop Given := do
  let g ← g.settle
  if g.verbose then .error .repeated else return { g with verbose := true }

/-- Whether an option waits for the next argument. -/
def isOpen (g : Given) : Bool := g.waiting.any (·.2.isNone)

def hasFile (g : Given) : Bool := g.file.isSome || g.waiting.any (·.1 == .file)

/-- Stop, unless a value that waits is at fault. -/
def stop (g : Given) (s : Stop) : Except Stop Given := do
  discard g.settle
  .error s

end Given

/-- An argument with two hyphens, behind them: its name and the value behind an equals sign. -/
def splitLong (text : List Char) : String × Option String :=
  let name := text.takeWhile (· != '=')
  (String.ofList name,
    if name.length < text.length then some (String.ofList (text.drop (name.length + 1))) else none)

def longSlot? : String → Option Slot
  | "output" => some .output
  | "config" => some .config
  | _ => none

def shortSlot? : Char → Option Slot
  | 'o' => some .output
  | 'c' => some .config
  | _ => none

/-- Read an argument with two hyphens, behind them. -/
def readLong (command : Option CommandName) (g : Given) (text : List Char) : Except Stop Given :=
  let (name, value) := splitLong text
  match longSlot? name, value with
  | some slot, some value => g.attach slot value
  | some slot, none => g.await slot
  | none, _ =>
    if name = "verbose" ∨ name = "help" ∨ name = "version" then
      if value.isSome then .error .needlessValue
      else if name = "verbose" then g.setVerbose
      else if name = "help" then g.stop .help
      else g.stop (.version command)
    else .error .unknownArgument

/-- Read the letters behind a single hyphen. An option takes all that follows it as its value. -/
def readShort (command : Option CommandName) (g : Given) : List Char → Except Stop Given
  | [] => .ok g
  | c :: rest =>
    match shortSlot? c with
    | some slot =>
      match rest with
      | [] => g.await slot
      | '=' :: value => g.attach slot (String.ofList value)
      | value => g.attach slot (String.ofList value)
    | none =>
      if c = 'v' then do readShort command (← g.setVerbose) rest
      else if c = 'h' then g.stop .help
      else if c = 'V' then g.stop (.version command)
      else .error .unknownArgument

/-- Take an argument that is no option: the file of a command, if that takes one. -/
def takePlain (command : Option CommandName) (literal : Bool) (g : Given) (argument : String) :
    Except Stop Given :=
  match command with
  | none =>
    .error (if literal && (CommandName.ofName? argument).isSome then .unknownArgument
      else .unknownCommand)
  | some name =>
    if name.takesFile && !g.hasFile then do
      return { ← g.settle with waiting := some (.file, some argument) }
    else .error .unknownArgument

/-- What an argument looks like. -/
inductive Shape
  | long (text : List Char)
  | short (text : List Char)
  /-- Two hyphens alone: all that follows is taken as it is. -/
  | separator
  | plain
  deriving Repr, DecidableEq

def Shape.of (argument : String) : Shape :=
  match argument.toList with
  | ['-', '-'] => .separator
  | '-' :: '-' :: text => .long text
  | '-' :: c :: text => .short (c :: text)
  | _ => .plain

/-- The command that an argument names, where one may be named. -/
def commandAt? (command : Option CommandName) (literal : Bool) (g : Given) (argument : String) :
    Option CommandName :=
  if command.isNone && !literal && !g.isOpen then CommandName.ofName? argument else none

/-- Read arguments up to the name of a command. The answer is what was given, and the command with
the arguments behind it. -/
def readArguments (command : Option CommandName) : (literal : Bool) → Given → List String →
    Except Stop (Given × Option (CommandName × List String))
  | _, g, [] => .ok (g, none)
  | literal, g, argument :: rest =>
    match commandAt? command literal g argument with
    | some name => .ok (g, some (name, rest))
    | none =>
      if literal then do
        readArguments command literal (← takePlain command literal g argument) rest
      else
        match Shape.of argument, g.waiting with
        | .separator, _ => readArguments command true g rest
        | .long text, _ => do readArguments command literal (← readLong command g text) rest
        | .short text, _ => do readArguments command literal (← readShort command g text) rest
        | .plain, some (slot, none) =>
          readArguments command literal { g with waiting := some (slot, some argument) } rest
        | .plain, _ => do
          readArguments command literal (← takePlain command literal g argument) rest

/-- The variable that names a settings file. -/
def configVariable : String := "GATEDEF_CONFIG"

/-- The settings file that a variable names, where none was given. It must have a name. -/
def configOf (env : Settings.Environment) (g : Given) : Except Stop (Option String) :=
  match g.config, env.get? configVariable with
  | some _, _ | none, none => .ok none
  | none, some value => if value.isEmpty then .error .invalidValue else .ok (some value)

/-- The command that help is asked for. None of the commands has commands of its own. -/
def readHelp : List String → Stop
  | [] => .help
  | name :: rest =>
    if (CommandName.ofName? name).isSome && rest.isEmpty then .help else .unknownCommand

def commandOf (name : CommandName) (file : Option String) : Except Stop Command :=
  match name, file with
  | .translate, some file => .ok (.translate file)
  | .validate, some file => .ok (.validate file)
  | .translate, none | .validate, none => .error .fileMissing
  | .info, _ => .ok .info
  | .help, _ => .error .help

def withoutCommand (g : Given) (config : Option String) : Stop :=
  if g.verbose || g.output.isSome || g.config.isSome || config.isSome then .commandMissing
  else .nothingGiven

def parse (env : Settings.Environment) (arguments : List String) : Except Stop Arguments := do
  match ← readArguments none false .nothing arguments with
  | (before, none) =>
    let before ← before.settle
    .error (withoutCommand before (← configOf env before))
  | (_, some (.help, rest)) => .error (readHelp rest)
  | (before, some (name, rest)) =>
    let (behind, _) ← readArguments (some name) false .nothing rest
    let behind ← behind.settle
    discard (configOf env behind)
    let command ← commandOf name behind.file
    let before ← before.settle
    let config ← configOf env before
    return ⟨before.verbose || behind.verbose, behind.output.or before.output,
      behind.config.or (before.config.or config), command⟩

end GatewayRecipes.CommandLine
