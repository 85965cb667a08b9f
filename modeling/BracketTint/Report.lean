import BracketTint.Document.Colors

/-!
# Reports

Two printed forms of the colors of a document. The plain one has a line `line:column color` for each
bracket, in text order. The other is a JSON object from colors to lists of ranges, indented by two
spaces a level.
-/

namespace BracketTint.Report

/-- The plain report of some brackets. -/
def ofBrackets (s : Scheme) (brackets : List Bracket) : String :=
  "\n".intercalate <| brackets.map fun b =>
    toString b.span.line ++ ":" ++ toString b.span.start ++ " " ++ s.colorOf b

/-- The plain report of a document, or of one of its lines. -/
def text (d : Document) (line : Option Nat) : String :=
  ofBrackets d.scheme <| match line with
    | some n => d.lineBrackets n
    | none => d.brackets

/-- A hexadecimal digit, in lower case. -/
def hexDigit (n : Nat) : Char := "0123456789abcdef".toList.getD n '0'

/-- A character inside a JSON string. Quotes, backslashes and control characters are escaped, all
else stands for itself. -/
def escape (c : Char) : List Char :=
  match c with
  | '"' => ['\\', '"']
  | '\\' => ['\\', '\\']
  | '\x08' => ['\\', 'b']
  | '\x0c' => ['\\', 'f']
  | '\n' => ['\\', 'n']
  | '\r' => ['\\', 'r']
  | '\t' => ['\\', 't']
  | c =>
    if c.toNat < 32 then
      ['\\', 'u', '0', '0', hexDigit (c.toNat / 16), hexDigit (c.toNat % 16)]
    else [c]

/-- A JSON string. -/
def quote (s : String) : String :=
  "\"" ++ String.ofList (s.toList.flatMap escape) ++ "\""

/-- A block of items between brackets, one a line, at a depth of indentation. -/
def block (opening closing : String) (depth : Nat) (items : List String) : String :=
  if items.isEmpty then opening ++ closing
  else
    let margin (n : Nat) : String := "\n" ++ "".pushn ' ' (2 * n)
    opening ++ ",".intercalate (items.map fun item => margin (depth + 1) ++ item) ++
      margin depth ++ closing

/-- A field of a JSON object. -/
def field (name value : String) : String := quote name ++ ": " ++ value

/-- A span as a JSON object. -/
def span (s : Span) : String :=
  block "\x7b" "\x7d" 2
    [field "start_line" (toString s.line), field "start_column" (toString s.start),
      field "end_line" (toString s.line), field "end_column" (toString s.stop)]

/-- Colored spans as a JSON object. -/
def json (m : ColorMap) : String :=
  block "\x7b" "\x7d" 0 <| m.entries.map fun e => field e.1 (block "[" "]" 1 (e.2.map span))

end BracketTint.Report
