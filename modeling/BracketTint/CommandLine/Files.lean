import BracketTint.CommandLine.Run

/-!
# Runs Among Files

The files that a run can reach, as a value, so that a run is a function of its arguments and what
surrounds it. A path is followed name by name from the directory of the run, or from the root if it
starts with a slash. Each step needs a directory to start from. So a path through a file or through
a directory that is missing leads nowhere, even if it turns back at once.

What is read from the standard input is gone, under whatever name it was read.
-/

namespace BracketTint.CommandLine

/-- What a name in a directory stands for. -/
inductive Node where
  | file (bytes : ByteArray)
  | standardInput
  | directory (entries : List (String × Node))

/-- A node, and the directories that it lies in, the innermost first. -/
structure Place where
  node : Node
  above : List Node := []

namespace Place

/-- The most bytes that a name has. -/
def longestName : Nat := 255

/-- The most bytes that a path has. -/
def longestPath : Nat := 4095

/-- The directory around a place. The root lies in itself. -/
def parent (p : Place) : Place :=
  match p.above with
  | [] => p
  | node :: above => { node, above }

/-- Follows one name. A dot or no name at all stays, and two dots lead out of the directory. -/
def enter (p : Place) (name : String) : Except Text.ReadFailure Place :=
  match p.node with
  | .directory entries =>
    if name == "" || name == "." then .ok p
    else if name == ".." then .ok p.parent
    else if longestName < name.utf8ByteSize then .error .nameTooLong
    else match entries.lookup name with
      | some node => .ok { node, above := p.node :: p.above }
      | none => .error .notFound
  | _ => .error .notDirectory

/-- Follows names one after the other. -/
def follow (p : Place) : List String → Except Text.ReadFailure Place
  | [] => .ok p
  | name :: rest => do (← p.enter name).follow rest

end Place

/-- The files around a run. -/
structure Files where
  root : Place
  /-- The directory of the run. -/
  here : Place
  /-- The path of the user's home. -/
  home : String

namespace Files

/-- What stands at a path. -/
def locate (f : Files) (path : String) : Except Text.ReadFailure Node :=
  if Place.longestPath < path.utf8ByteSize then .error .nameTooLong
  else if path.isEmpty then .error .notFound
  else
    let start := if path.startsWith "/" then f.root else f.here
    (start.follow (path.splitOn "/")).map Place.node

/-- Takes what is left of the standard input. -/
def takeInput : StateM ByteArray Text.Content := do
  let bytes ← get
  set ByteArray.empty
  return .ok bytes

/-- The content of the file at a path. -/
def read (f : Files) (path : String) : StateM ByteArray Text.Content :=
  match f.locate path with
  | .ok (.file bytes) => return .ok bytes
  | .ok .standardInput => takeInput
  | .ok (.directory _) => return .error .isDirectory
  | .error failure => return .error failure

/-- The files as the surroundings of a run, with the standard input that is left as the state. -/
def surroundings (f : Files) : Surroundings (StateM ByteArray) where
  home := return f.home
  file := f.read
  standardInput := takeInput

/-- Runs the command among files, on a standard input. -/
def run (f : Files) (input : ByteArray) (args : List String) : Outcome :=
  (f.surroundings.serve args input).1

end Files

end BracketTint.CommandLine
