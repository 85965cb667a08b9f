import BracketTint.Document.Basic

/-!
# Colored Spans

The places to be colored, grouped by color. Colors are listed in ascending order and the spans of a
color in text order.
-/

namespace BracketTint

/-- The spans of each color. -/
abbrev ColorMap := Table String (List Span)

namespace ColorMap

/-- Adds a span to a color, after those that it has. -/
def add (m : ColorMap) (color : String) (span : Span) : ColorMap :=
  m.insert color ((m.get? color).getD [] ++ [span])

/-- The spans of brackets by their colors in a scheme. -/
def ofBrackets (s : Scheme) (brackets : List Bracket) : ColorMap :=
  brackets.foldl (fun m b => add m (s.colorOf b) b.span) ∅

end ColorMap

namespace Document

/-- The colored spans of the whole text. -/
def colorMap (d : Document) : ColorMap := .ofBrackets d.scheme d.brackets

/-- The colored spans of a line. -/
def lineColorMap (d : Document) (line : Nat) : ColorMap :=
  .ofBrackets d.scheme (d.lineBrackets line)

end Document

end BracketTint
