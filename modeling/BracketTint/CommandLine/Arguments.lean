import BracketTint.Config.Basic
import BracketTint.Text.Plain
import BracketTint.Word

/-!
# Arguments of the Command

The command takes options with a value, written `--name value` or `--name=value`, two flags, and one
input file. After `--` everything is an input file. Arguments are read from left to right. A value
is taken in only when the next argument has been understood, so that an argument that is not known
is reported before a bad value in front of it.
-/

namespace BracketTint.CommandLine

/-- The forms of a report. -/
inductive Format where
  | json
  | text
deriving DecidableEq, Repr

/-- What a run of the command is asked to do. -/
structure Options where
  /-- The file to read; none for standard input. -/
  input : Option String := none
  /-- The configuration file to use in place of the usual one. -/
  config : Option String := none
  scope : Option CycleScope := none
  /-- The only line to report. -/
  line : Option Nat := none
  format : Option Format := none
deriving DecidableEq, Repr

/-- A request to the command. -/
inductive Request where
  | colorize (options : Options)
  | help
  | version
deriving DecidableEq, Repr

/-- What a value is for. -/
inductive Slot where
  | input
  | config
  | scope
  | line
  | format
deriving DecidableEq, Repr

/-- How a value is asked for. -/
def Slot.label : Slot → String
  | input => "[INPUT]"
  | config => "--config <CONFIG>"
  | scope => "--mode <MODE>"
  | line => "--line <LINE>"
  | format => "--format <FORMAT>"

/-- Why arguments are not understood. -/
inductive UsageError where
  /-- An argument is not known. It might have been meant as an input if it looks like an option. -/
  | unknownArgument (text : String) (isOption : Bool)
  /-- A flag was given a value. -/
  | unexpectedValue (flag value : String)
  | missingValue (slot : Slot)
  | repeated (slot : Slot)
  | badValue (slot : Slot) (value reason : String)
  | unknownScope (value : String)
deriving DecidableEq, Repr

/-- The reason in words. -/
def UsageError.message : UsageError → String
  | unknownArgument text isOption =>
    let text := Text.plain text
    let tip := "\n\n  tip: to pass '" ++ text ++ "' as a value, use '-- " ++ text ++ "'"
    "unexpected argument '" ++ text ++ "' found" ++ (if isOption then tip else "")
  | unexpectedValue flag value =>
    "unexpected value '" ++ Text.plain value ++ "' for '--" ++ flag ++
      "' found; no more were expected"
  | missingValue slot => "a value is required for '" ++ slot.label ++ "' but none was supplied"
  | repeated slot => "the argument '" ++ slot.label ++ "' cannot be used multiple times"
  | badValue slot value reason =>
    "invalid value '" ++ Text.plain value ++ "' for '" ++ slot.label ++ "'" ++ reason
  | unknownScope value =>
    "invalid value '" ++ Text.plain value ++ "' for '" ++ Slot.scope.label ++ "': " ++
      Text.plain (CycleScope.unknownMessage value)

/-- The option with a name. -/
def Slot.ofName? : String → Option Slot
  | "config" => some config
  | "mode" => some scope
  | "line" => some line
  | "format" => some format
  | _ => none

/-- A word in decimal digits, with or without a plus sign. -/
def word? (s : String) : Option Nat :=
  let digits := match s.toList with
    | '+' :: rest => rest
    | cs => cs
  let n := digits.foldl (fun n c => 10 * n + (c.toNat - '0'.toNat)) 0
  if !digits.isEmpty && digits.all Char.isDigit && n < Word.size then some n else none

/-- Why a text is no word. Its characters are looked at from left to right. -/
def wordProblem (n : Nat) : List Char → String
  | [] => "cannot parse integer from empty string"
  | c :: rest =>
    let next := 10 * n + (c.toNat - '0'.toNat)
    if !c.isDigit then "invalid digit found in string"
    else if Word.size ≤ next then "number too large to fit in target type"
    else wordProblem next rest

/-- The format with a name. -/
def Format.ofName? : String → Option Format
  | "json" => some json
  | "text" => some text
  | _ => none

/-- Fills a slot, if it is not filled yet and the value is there. -/
def fill {α : Type} (slot : Slot) (old : Option α) (value : Except UsageError α) :
    Except UsageError (Option α) := do
  if old.isSome then throw (.repeated slot)
  return some (← value)

/-- The name of a file. -/
def path (slot : Slot) (value : String) : Except UsageError String :=
  if value.isEmpty then .error (.missingValue slot) else .ok value

/-- The value of a line number. -/
def lineNumber (value : String) : Except UsageError Nat :=
  match word? value, value.toList with
  | some n, _ => .ok n
  | none, '+' :: c :: rest => .error (.badValue .line value (": " ++ wordProblem 0 (c :: rest)))
  | none, cs => .error (.badValue .line value (": " ++ wordProblem 0 cs))

/-- The value of a format. -/
def formatNamed (value : String) : Except UsageError Format :=
  match Format.ofName? value with
  | some format => .ok format
  | none =>
    if value.isEmpty then .error (.missingValue .format)
    else .error (.badValue .format value "\n  [possible values: json, text]")

namespace Options

/-- Takes in a value. -/
def set (o : Options) (slot : Slot) (value : String) : Except UsageError Options :=
  match slot with
  | .input => do return { o with input := ← fill slot o.input (path slot value) }
  | .config => do return { o with config := ← fill slot o.config (path slot value) }
  | .scope => do
    let scope := (CycleScope.ofText? value).elim (.error (.unknownScope value)) .ok
    return { o with scope := ← fill slot o.scope scope }
  | .line => do return { o with line := ← fill slot o.line (lineNumber value) }
  | .format => do return { o with format := ← fill slot o.format (formatNamed value) }

end Options

/-- The shapes of arguments. -/
inductive Argument where
  /-- Two dashes alone. -/
  | separator
  /-- A name after two dashes, and a value after an equals sign. -/
  | long (name : String) (value : Option String)
  /-- A letter after one dash. -/
  | short (letter : Char)
  | plain (text : String)
deriving DecidableEq, Repr

/-- The shape of an argument. Of several letters after a dash the first one counts. -/
def Argument.ofString (s : String) : Argument :=
  match s.toList with
  | ['-', '-'] => separator
  | '-' :: '-' :: rest =>
    let name := String.ofList (rest.takeWhile (· != '='))
    match rest.dropWhile (· != '=') with
    | _ :: value => long name (some (String.ofList value))
    | [] => long name none
  | '-' :: letter :: _ => short letter
  | _ => plain s

/-- How far the arguments have been read. -/
structure Progress where
  options : Options := {}
  /-- An option or input that is not taken in yet, and its value if that has been read. -/
  held : Option (Slot × Option String) := none
  /-- Whether an input has been read. -/
  hasInput : Bool := false
  /-- Whether all further arguments are inputs. -/
  onlyInputs : Bool := false
deriving DecidableEq, Repr

namespace Progress

/-- The options after what is held is taken in. -/
def settle (p : Progress) : Except UsageError Options :=
  match p.held with
  | none => .ok p.options
  | some (slot, none) => .error (.missingValue slot)
  | some (slot, some value) => p.options.set slot value

/-- Reads an input. -/
def readInput (p : Progress) (text : String) : Except UsageError Progress := do
  if p.hasInput then throw (.unknownArgument text false)
  let options ← p.settle
  return { p with options, held := some (.input, some text), hasInput := true }

/-- Reads an option. -/
def readOption (p : Progress) (slot : Slot) (value : Option String) :
    Except UsageError Progress := do
  let options ← p.settle
  match value with
  | some value => return { p with options := ← options.set slot value, held := none }
  | none => return { p with options, held := some (slot, none) }

/-- Reads arguments. -/
def read : Progress → List String → Except UsageError Request
  | p, [] => p.settle.map .colorize
  | p, arg :: rest =>
    if p.onlyInputs then do read (← p.readInput arg) rest
    else match Argument.ofString arg with
      | .separator => read { p with onlyInputs := true } rest
      | .long "help" none => p.settle.map fun _ => .help
      | .long "version" none => p.settle.map fun _ => .version
      | .long "help" (some value) => .error (.unexpectedValue "help" value)
      | .long "version" (some value) => .error (.unexpectedValue "version" value)
      | .long name value =>
        match Slot.ofName? name with
        | some slot => do read (← p.readOption slot value) rest
        | none => .error (.unknownArgument ("--" ++ name) true)
      | .short 'h' => p.settle.map fun _ => .help
      | .short 'V' => p.settle.map fun _ => .version
      | .short letter => .error (.unknownArgument (String.ofList ['-', letter]) true)
      | .plain text =>
        match p.held with
        | some (slot, none) => read { p with held := some (slot, some text) } rest
        | _ => do read (← p.readInput text) rest

end Progress

/-- What arguments ask for. -/
def Request.ofArguments (args : List String) : Except UsageError Request := Progress.read {} args

end BracketTint.CommandLine
