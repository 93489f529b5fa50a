import GatewayRecipes.CommandLine.Commands

/-! A run of the program, from its arguments to what it leaves behind. -/
namespace GatewayRecipes.CommandLine

/-- What a run depends on. -/
structure Context where
  arguments : List String
  environment : Settings.Environment
  read : FileReader
  /-- Whether a terminal reads the output. -/
  terminal : Bool

/-- Whether output has colours: where that is forced, or on a terminal unless it is turned off. -/
def Context.colour (c : Context) : Bool :=
  (c.environment.get? "CLICOLOR_FORCE").any (· != "0") ||
    (c.terminal && !c.environment.has "NO_COLOR" &&
      (c.environment.get? "CLICOLOR").all (· != "0"))

/-- Whether errors tell of the calls that led to them. The first of these variables, where it is set,
is for errors alone. -/
def Context.tracesCalls (c : Context) : Bool :=
  ((c.environment.get? "RUST_LIB_BACKTRACE").or (c.environment.get? "RUST_BACKTRACE")).any (· != "0")

/-- What is left open of a run: the order in which its settings are gone through, and how the calls
that led to an error are put. -/
structure Choices where
  order : Settings.LoadOrder
  calls : String

def Choices.standard : Choices := ⟨.asWritten, ""⟩

/-- What is told of the calls that led to an error, below it. -/
def Context.trace (c : Context) (choices : Choices) : String :=
  if c.tracesCalls then "\n\nStack backtrace:\n" ++ choices.calls else ""

def usage : String :=
  unlines ["Translate <gateway/> definitions into construction recipes", "",
    "Usage: gatedef [OPTIONS] <COMMAND>", "",
    "Commands:",
    "  translate <FILE>  Translate every definition in a document and print the recipes",
    "  validate <FILE>   Check that a document translates without errors",
    "  info              Show the supported element grammar",
    "  help              Print this message", "",
    "Options:",
    "  -v, --verbose          Enable verbose output",
    "  -o, --output <OUTPUT>  Output format (text, json, yaml)",
    "  -c, --config <CONFIG>  Settings file path (defaults to ./gatedef.toml when present)",
    "  -h, --help             Print help",
    "  -V, --version          Print version"]

/-- The name of the program with its version, or that of one of its commands. -/
def versionLine (command : Option CommandName) : String :=
  "gatedef" ++ (command.map fun n => "-" ++ n.text).getD "" ++ " " ++ Output.version ++ "\n"

def Stop.outcome : Stop → Outcome
  | help => ⟨0, usage, none, []⟩
  | version command => ⟨0, versionLine command, none, []⟩
  | stop => ⟨stop.code, "", none, []⟩

/-- The causes of an error in settings, the nearest first. What is wrong with a text is not told. -/
def settingsCauses (e : Settings.Error) : List String :=
  match e with
  | .file cause => [e.message, cause.message]
  | .unsupported _ => [e.message]
  | .malformed => []

/-- Put a text behind a mark, with its further lines below the first. -/
def hangingLines (mark : String) (text : String) : String :=
  let gap := String.ofList (List.replicate mark.length ' ')
  mark ++ String.ofList (text.toList.flatMap fun c => if c = '\n' then '\n' :: gap.toList else [c])

/-- Causes below an error, with numbers where there are several. -/
def causeLines : List String → List String
  | [] => []
  | [cause] => ["", "Caused by:", hangingLines "    " cause]
  | causes =>
    "" :: "Caused by:" ::
      causes.zipIdx.map fun (cause, n) => hangingLines ("    " ++ toString n ++ ": ") cause

/-- What is said of an error: its message, its causes, and the calls that led to it. -/
def errorText (message : String) (causes : List String) (trace : String) : String :=
  "\n".intercalate (("Error: " ++ message) :: causeLines causes) ++ trace

/-- What is said of an error in settings. Where a text is at fault, what follows is not told. -/
def settingsFailure (e : Settings.Error) (trace : String) : String :=
  errorText ("Settings error: " ++ e.message) (settingsCauses e)
    (if e = .malformed then "" else trace)

def logFilter (a : Arguments) (s : Settings) : LogFilter :=
  .parse (if a.verbose then "debug" else s.logLevel)

/-- The output format: the one on the command line, else that of the settings. -/
def outputFormat (a : Arguments) (s : Settings) : Output.Format := a.output.getD s.output

def run (c : Context) (choices : Choices := .standard) : Outcome :=
  let trace := c.trace choices
  match parse c.environment c.arguments with
  | .error stop => stop.outcome
  | .ok a =>
    match Settings.load c.environment c.read a.config choices.order with
    | .error e => ⟨1, "", some (settingsFailure e trace), []⟩
    | .ok s =>
      let outcome := a.command.run c.colour (outputFormat a s) c.read
      let log := outcome.log.filter (logFilter a s).shows
      { outcome with error := outcome.error.map (errorText · [] trace), log := log }

def filesRead (environment : Settings.Environment) (arguments : List String) : List String :=
  match parse environment arguments with
  | .error _ => []
  | .ok a =>
    let document := match a.command with
      | .translate file | .validate file => [file]
      | .info => []
    a.config.getD Settings.defaultFile :: document

end GatewayRecipes.CommandLine
