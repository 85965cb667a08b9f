import BracketTint.Text.Lines

/-!
# Contents of Files

What is read from a file is its bytes, or the reason why it cannot be read. Text files are in UTF-8.
-/

namespace BracketTint.Text

/-- Why a file cannot be read as text. -/
inductive ReadFailure where
  | notFound
  | notDirectory
  | isDirectory
  /-- A path, or a name in it, has too many bytes. -/
  | nameTooLong
  | notText
  /-- Any other reason, in the words of the system. -/
  | other (reason : String)
deriving DecidableEq, Repr

namespace ReadFailure

/-- The reason in words. -/
def message : ReadFailure → String
  | notFound => "No such file or directory (os error 2)"
  | notDirectory => "Not a directory (os error 20)"
  | isDirectory => "Is a directory (os error 21)"
  | nameTooLong => "File name too long (os error 36)"
  | notText => "stream did not contain valid UTF-8"
  | other reason => reason

/-- The reason as an error of its own. -/
def report (f : ReadFailure) : String := "IO error: " ++ f.message

/-- Whether nothing can be found at all where the file was looked for. -/
def isAbsence : ReadFailure → Bool
  | notFound | notDirectory | nameTooLong => true
  | _ => false

end ReadFailure

/-- The bytes of a file, or why there are none. -/
abbrev Content := Except ReadFailure ByteArray

/-- The content of a file that need not be there. -/
def Content.present? : Content → Option Content
  | .error failure => if failure.isAbsence then none else some (.error failure)
  | content => some content

/-- The text of a file. -/
def Content.text (content : Content) : Except ReadFailure String := do
  match String.fromUTF8? (← content) with
  | some text => return text
  | none => throw .notText

/-- The lines of a file. -/
def Content.lines (content : Content) : Except ReadFailure (List String) :=
  content.text.map Text.lines

end BracketTint.Text
