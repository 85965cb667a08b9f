import BracketTint.Toml.Value

/-!
# Why a Text Cannot Be Used

A failure knows its place in the text, and is told with the line that it stands on.
-/

namespace BracketTint.Toml

/-- Why a text cannot be used: what is wrong, and where. -/
structure Failure where
  place : Place
  message : String
deriving DecidableEq, Repr

namespace Failure

/-- The place of a failure, in characters from the start of the text. The end of a text counts as
its last character. -/
def index (f : Failure) (text : List Char) : Nat :=
  min (text.length - f.place.length) (text.length - 1)

/-- A failure in words, with its line in the text. -/
def report (f : Failure) (text : String) : String :=
  let cs := text.toList
  let before := cs.take (f.index cs)
  let start := (before.reverse.takeWhile (· != '\n')).reverse
  let line := start ++ (cs.drop (f.index cs)).takeWhile (· != '\n')
  let number := toString (before.count '\n' + 1)
  let margin := String.ofList (List.replicate (number.length + 1) ' ') ++ "|"
  "TOML parse error at line " ++ number ++ ", column " ++ toString (start.length + 1) ++ "\n" ++
  margin ++ "\n" ++
  number ++ " | " ++ String.ofList line ++ "\n" ++
  margin ++ String.ofList (List.replicate (start.length + 1) ' ') ++ "^\n" ++
  f.message ++ "\n"

end Failure

/-- Takes a piece off the front of a text, and gives the piece and the rest. The piece lies on one
line, so it does not matter where in it a text that is no such piece goes wrong. -/
abbrev Reader (α : Type) := List Char → Option (α × List Char)

/-- Takes a piece off the front of a text, or tells why it cannot. -/
abbrev Attempt (α : Type) := List Char → Except Failure (α × List Char)

/-- Tells that a text cannot be read from a place on. -/
def stuck {α : Type} (place : Place) : Except Failure α :=
  .error { place, message := "unexpected text" }

/-- What was read at a place, if anything was. -/
def orStuck {α : Type} (place : Place) (read : Option α) : Except Failure α :=
  match read with
  | some a => .ok a
  | none => stuck place

end BracketTint.Toml
