import BracketTint.CommandLine.Run
import Std.Time

/-!
# The Command

Reads the files that the arguments name, runs the command on their contents, and prints what it
leaves behind.
-/

namespace BracketTint.CommandLine

/-- Why a file could not be read. -/
def readFailure : IO.Error → Text.ReadFailure
  | .noFileOrDirectory .. => .notFound
  | .inappropriateType _ 21 _ => .isDirectory
  | .inappropriateType .. => .notDirectory
  | .invalidArgument _ 36 _ => .nameTooLong
  | .permissionDenied _ 13 _ => .other "Permission denied (os error 13)"
  | e => .other (toString e)

/-- The content of a file. -/
def readFile (path : String) : IO Text.Content := do
  let bytes : IO ByteArray := do (← IO.FS.Handle.mk path .read).readBinToEnd
  match ← bytes.toBaseIO with
  | .ok bytes => return .ok bytes
  | .error e => return .error (readFailure e)

/-- The time of day, to milliseconds. -/
def now : IO String := do
  return (← Std.Time.PlainDateTime.now).format "uuuu-MM-dd'T'HH:mm:ss.SSS"

/-- The surroundings of the running command. -/
def surroundings : Surroundings IO where
  home := return (← IO.getEnv "HOME").getD "."
  file := readFile
  standardInput := return .ok (← (← IO.getStdin).readBinToEnd)

end BracketTint.CommandLine

open BracketTint.CommandLine in
/-- The command. -/
def main (args : List String) : IO UInt32 := do
  let outcome ← surroundings.serve args
  IO.eprint (outcome.complaints (← now))
  IO.print outcome.output
  return outcome.code.toUInt32
