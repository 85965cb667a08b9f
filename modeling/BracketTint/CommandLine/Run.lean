import BracketTint.CommandLine.Arguments
import BracketTint.Config.Load
import BracketTint.Config.Validate
import BracketTint.Report

/-!
# Runs of the Command

A run of the command, from the contents of its files to what it prints. A configuration that cannot
be used never stops it; an input that cannot be read does.
-/

namespace BracketTint.CommandLine

/-- Something that went wrong without stopping the command. -/
inductive Notice where
  /-- The configuration file at a path could not be used. -/
  | config (path : String) (problem : Config.LoadProblem)
  | scheme (warning : Config.Warning)
deriving DecidableEq, Repr

/-- An entry of the log. Controls are left out of it, and if they start a sequence that does not
end, this takes the rest of the entry with it, its line break included. -/
def logEntry (time level message : String) : String :=
  Text.plain ("[" ++ time ++ "] [" ++ level ++ "] " ++ message ++ "\n")

/-- A notice as it is told to the user at a time. -/
def Notice.text (time : String) : Notice → String
  | config path problem =>
    let cause := match problem with
      | .unreadable failure =>
        "Failed to read config file " ++ Text.quoted path ++ ": " ++ failure.message
      | .invalid report => "Failed to parse config: " ++ report
    logEntry time "ERROR" cause ++ "Warning: " ++ problem.message ++ "\n"
  | scheme warning => logEntry time "WARN" warning.message

/-- Why a run of the command stopped. -/
inductive Failure where
  | usage (error : UsageError)
  | read (failure : Text.ReadFailure)
deriving DecidableEq, Repr

/-- A failure as it is told to the user. -/
def Failure.text : Failure → String
  | usage error => "error: " ++ error.message ++ "\n\nFor more information, try '--help'.\n"
  | read failure => "Error: \n   0: " ++ failure.report ++ "\n"

/-- What a run of the command leaves behind. -/
structure Outcome where
  output : String := ""
  notices : List Notice := []
  failure : Option Failure := none
deriving DecidableEq, Repr

/-- What a run at a time tells the user beside its output. -/
def Outcome.complaints (o : Outcome) (time : String) : String :=
  String.join (o.notices.map (Notice.text time)) ++ (o.failure.map Failure.text).getD ""

/-- The exit code of a run. -/
def Outcome.code (o : Outcome) : Nat :=
  match o.failure with
  | none => 0
  | some (.read _) => 1
  | some (.usage _) => 2

/-- The report on a document. -/
def report (o : Options) (d : Document) : String :=
  match o.format.getD .json with
  | .text => Report.text d o.line
  | .json => Report.json <| match o.line with
    | some line => d.lineColorMap line
    | none => d.colorMap

/-- A configuration file. -/
structure ConfigFile where
  path : String
  content : Text.Content

/-- Colors an input. The configuration file need not be there. -/
def colorize (o : Options) (file : Option ConfigFile) (input : Text.Content) : Outcome :=
  let (config, problem) := Config.loadIfPresent (file.map ConfigFile.content)
  let (scheme, warnings) := Config.validate { config with scope := o.scope.getD config.scope }
  let path := (file.map ConfigFile.path).getD ""
  let notices := problem.toList.map (.config path) ++ warnings.map .scheme
  match input.lines with
  | .error failure => { notices, failure := some (.read failure) }
  | .ok lines =>
    let text := report o (.parse scheme lines)
    { notices, output := if text.isEmpty then "" else text ++ "\n" }

/-- The name and the version of the command. -/
def version : String := "bracket-colorizer 0.4.2\n"

/-- How the command is used. -/
def help : String :=
  "Match bracket pairs in source text and assign each a color by nesting depth\n\n" ++
  "Usage: bracket-colorizer [OPTIONS] [INPUT]\n\n" ++
  "Arguments:\n" ++
  "  [INPUT]  Input file (if not provided, reads from stdin)\n\n" ++
  "Options:\n" ++
  "      --config <CONFIG>  Configuration file to use instead of " ++
  "~/.config/bracket-colorizer/config.toml\n" ++
  "      --mode <MODE>      Override the configured color mode (consecutive or independent)\n" ++
  "      --line <LINE>      Only report brackets on this zero-based line\n" ++
  "      --format <FORMAT>  Output format [default: json] [possible values: json, text]\n" ++
  "  -h, --help             Print help\n" ++
  "  -V, --version          Print version\n"

/-- Where the configuration file stands, from the user's home on. -/
def configPath : String := ".config/bracket-colorizer/config.toml"

/-- What a run can ask of its surroundings. -/
structure Surroundings (m : Type → Type) where
  /-- The path of the user's home. -/
  home : m String
  /-- The content of the file with a path. -/
  file : String → m Text.Content
  standardInput : m Text.Content

namespace Surroundings

variable {m : Type → Type} [Monad m]

/-- The configuration file: the one that the options name, or the usual one, which need not be
there. -/
def readConfig (s : Surroundings m) (o : Options) : m (Option ConfigFile) := do
  match o.config with
  | some path => return some { path, content := ← s.file path }
  | none =>
    let path := (← s.home) ++ "/" ++ configPath
    return (← s.file path).present?.map fun content => { path, content }

/-- The content of the input. -/
def readInput (s : Surroundings m) (o : Options) : m Text.Content :=
  match o.input with
  | some path => s.file path
  | none => s.standardInput

/-- Serves the request of some arguments. The configuration is read before the input. -/
def serve (s : Surroundings m) (args : List String) : m Outcome := do
  match Request.ofArguments args with
  | .error e => return { failure := some (.usage e) }
  | .ok .help => return { output := help }
  | .ok .version => return { output := version }
  | .ok (.colorize o) =>
    let config ← s.readConfig o
    let input ← s.readInput o
    return colorize o config input

end Surroundings

end BracketTint.CommandLine
