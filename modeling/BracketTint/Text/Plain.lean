/-!
# Text Without Terminal Controls

What is told to the user must not control the terminal it is shown on. So controls are left out of
it: single control characters, apart from those that lay out text, and the sequences that an escape
character starts. A sequence is left out up to its end, which can lie far beyond the text that
started it.

Layout inside a sequence is shown, and so is the text after it up to the next control, where the
sequence goes on. It is forgotten if that text has a character beyond ASCII.
-/

namespace BracketTint.Text

/-- What a terminal is in the middle of. -/
inductive Reading where
  | text
  /-- After an escape character. -/
  | escape
  /-- After an escape character and marks that need another character. -/
  | marks
  /-- In a command with parameters. -/
  | command
  /-- In a text for the system, such as a window title. -/
  | title
  /-- At the start of data for a device. -/
  | device
  /-- In the parameters of such data. -/
  | deviceParameters
  /-- After the parameters of such data. -/
  | deviceMarks
  /-- In data for a device, or other data. -/
  | data
deriving DecidableEq, Repr

/-- Whether a control character lays out text: tab, line feed, form feed, carriage return. -/
def isLayout (c : Char) : Bool := c == '\t' || c == '\n' || c == '\x0c' || c == '\r'

/-- Whether the byte `9C`, which ends data, is among the bytes of a character in UTF-8. -/
def hasDataEnd (c : Char) : Bool := (String.ofList [c]).toUTF8.toList.contains 0x9c

namespace Reading

/-- Whether a code point lies between two others. -/
def between (c : Char) (first last : Nat) : Bool := decide (first ≤ c.toNat ∧ c.toNat ≤ last)

/-- What follows when an escape character is followed by another one. -/
def afterEscape (c : Char) : Reading :=
  if c == '[' then command
  else if c == ']' then title
  else if c == 'P' then device
  else if c == 'X' || c == '^' || c == '_' then data
  else if between c 0x20 0x2f then marks
  else if between c 0x30 0x7e then text
  else escape

/-- What a terminal is in the middle of after a character that it does not show. -/
def skip (r : Reading) (c : Char) : Reading :=
  if c == '\x1b' then escape
  else if c == '\x18' || c == '\x1a' then text
  else match r with
    | text => text
    | escape => afterEscape c
    | marks => if between c 0x30 0x7e then text else marks
    | command => if between c 0x40 0x7e then text else command
    | title => if c == '\x07' then text else title
    | device =>
      if between c 0x20 0x2f then deviceMarks
      else if between c 0x30 0x3f then deviceParameters
      else if between c 0x40 0x7e then data
      else device
    | deviceParameters =>
      if between c 0x20 0x2f then deviceMarks
      else if between c 0x3c 0x7e then data
      else deviceParameters
    | deviceMarks => if between c 0x30 0x7e then data else deviceMarks
    | data => if hasDataEnd c then text else data

/-- Whether a character is part of the text. Layout counts as text in sequences other than titles
and data. -/
def shows (r : Reading) (c : Char) : Bool :=
  match r with
  | text => isLayout c || (decide (0x20 ≤ c.toNat) && c != '\x7f')
  | escape | marks | command => isLayout c
  | _ => false

/-- The part of some characters that is text. `isShowing` tells that the last character was. -/
def plain (isShowing : Bool) : Reading → List Char → List Char
  | _, [] => []
  | r, c :: rest =>
    if (if isShowing then text else r).shows c then
      c :: plain true (if c.toNat < 0x80 then r else text) rest
    else plain false (r.skip c) rest

end Reading

/-- A text without terminal controls. -/
def plain (s : String) : String := String.ofList (Reading.text.plain false s.toList)

end BracketTint.Text
