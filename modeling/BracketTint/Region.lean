/-!
# Regions of a Text

Brackets count only in code, not in strings or comments. This module reads a line and finds the
characters that are visible as code, given the region that the line starts in. It knows nothing of
brackets or colors.

* `//` starts a comment that ends with the line.
* `/*` starts a comment that ends after the next `*/` and may run over many lines.
* A quote starts a string that ends at the next quote of the same kind and may run over many lines.
  A quote that follows an odd number of backslashes neither starts nor ends a string.

Quotes and the marks of comments are not visible themselves. `Lexer` is the state between two
characters, `Lexer.step` passes one character, and `Region.view` reads a line.
-/

namespace BracketTint

/-- What a piece of text is part of. -/
inductive Region where
  | code
  | string (quote : Char)
  | lineComment
  | blockComment
deriving DecidableEq, Repr

namespace Region

/-- The region in which the next line starts, if a line ends in this one. -/
def afterLine : Region → Region
  | lineComment => code
  | region => region

theorem afterLine_eq (region : Region) :
    region.afterLine = if region = lineComment then code else region := by
  cases region <;> rfl

/-- Whether a character starts and ends strings. -/
def isQuote (c : Char) : Bool := c == '"' || c == '\'' || c == '\x60'

theorem isQuote_iff {c : Char} : isQuote c = true ↔ c ∈ ['"', '\'', '\x60'] := by
  simp [isQuote, or_assoc]

end Region

/-- The state of reading between two characters of a line. -/
structure Lexer where
  /-- The region of the next character. -/
  region : Region
  /-- Whether an odd number of backslashes stands directly before. -/
  escaped : Bool := false
  /-- Whether the next character is the second half of a two-character mark. -/
  midMark : Bool := false
deriving DecidableEq, Repr

namespace Lexer

/-- Whether `c` and the character after it are the mark of a comment. -/
def startsComment (c : Char) (next : Option Char) : Bool :=
  c == '/' && (next == some '/' || next == some '*')

/-- Whether a character is visible as code. `next` is the character after it. -/
def shows (s : Lexer) (c : Char) (next : Option Char) : Bool :=
  !s.midMark && s.region == .code && !startsComment c next && !Region.isQuote c

/-- The state after a character. `next` is the character after it. -/
def step (s : Lexer) (c : Char) (next : Option Char) : Lexer :=
  let backslash := c == '\\' && !s.escaped
  if s.midMark then { region := s.region }
  else match s.region with
    | .lineComment => { region := .lineComment }
    | .blockComment =>
      if c == '*' && next == some '/' then { region := .code, midMark := true }
      else { region := .blockComment }
    | .string quote =>
      { region := if c == quote && !s.escaped then .code else .string quote
        escaped := backslash }
    | .code =>
      if c == '/' && next == some '/' then { region := .lineComment }
      else if c == '/' && next == some '*' then { region := .blockComment, midMark := true }
      else
        { region := if Region.isQuote c && !s.escaped then .string c else .code
          escaped := backslash }

end Lexer

/-- A visible character and its column. -/
structure Glyph where
  column : Nat
  char : Char
deriving DecidableEq, Repr

/-- What is visible of a line. -/
structure View where
  /-- The visible characters, in order. -/
  glyphs : List Glyph
  /-- The region that the line ends in. -/
  region : Region
deriving DecidableEq, Repr

namespace Lexer

/-- Reads the rest of a line from a column on. -/
def view : Lexer → Nat → List Char → View
  | s, _, [] => ⟨[], s.region⟩
  | s, column, c :: rest =>
    let later := view (s.step c rest.head?) (column + 1) rest
    if s.shows c rest.head? then { later with glyphs := ⟨column, c⟩ :: later.glyphs } else later

end Lexer

/-- Reads a line that starts in a region. -/
def Region.view (region : Region) (text : List Char) : View :=
  Lexer.view { region } 0 text

end BracketTint
