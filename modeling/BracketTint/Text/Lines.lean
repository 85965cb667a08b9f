/-!
# Lines of a Text

A line ends with a line feed, and a carriage return directly before the line feed belongs to the
line break. The last line need not end with a line feed; then a carriage return at its end is part
of it.
-/

namespace BracketTint.Text

/-- Splits characters into lines, without their line breaks. -/
def splitLines : List Char → List (List Char)
  | [] => []
  | '\n' :: rest => [] :: splitLines rest
  | '\r' :: '\n' :: rest => [] :: splitLines rest
  | c :: rest =>
    match splitLines rest with
    | [] => [[c]]
    | line :: lines => (c :: line) :: lines

/-- The lines of a text. -/
def lines (text : String) : List String := (splitLines text.toList).map String.ofList

end BracketTint.Text
