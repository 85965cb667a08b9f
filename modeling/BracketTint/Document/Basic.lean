import BracketTint.Scan.Row

/-!
# Scanned Documents

A document is kept as its scanned lines, together with the partners of its openers. Which closer an
opener has is known only below it, so the openers of the rows keep waiting and are resolved when
they are asked for.
-/

namespace BracketTint

/-- A scanned text. -/
structure Document where
  scheme : Scheme
  /-- The scanned lines, each starting in the context in which the one above it ends. -/
  rows : List Row
  /-- The place of the closer of each matched opener. -/
  partners : Table Position Position
deriving DecidableEq

namespace Document

/-- Scans lines from a line number and a context on. -/
def scanLines (s : Scheme) : Nat → Context → List String → List Row
  | _, _, [] => []
  | line, entry, text :: rest =>
    let row := Row.scan s line entry text
    row :: scanLines s (line + 1) row.exit rest

/-- Scans a text. -/
def parse (s : Scheme) (lines : List String) : Document :=
  let rows := scanLines s 0 {} lines
  { scheme := s, rows, partners := .ofList (rows.flatMap Row.closedPairs) }

/-- The number of lines. -/
def lineCount (d : Document) : Nat := d.rows.length

/-- The place of the closer of the opener at a position. -/
def partner? (d : Document) (p : Position) : Option Position := d.partners.get? p

/-- Links an opener to its closer, or finds it stray. -/
def resolve (d : Document) (b : Bracket) : Bracket :=
  match b.side with
  | .closer => b
  | .opener => { b with link := match d.partner? b.position with
      | some p => .matched p
      | none => .stray }

/-- The brackets of the text, in order. -/
def brackets (d : Document) : List Bracket := (d.rows.flatMap Row.brackets).map d.resolve

/-- The brackets of a line, in order; none for a line beyond the end. -/
def lineBrackets (d : Document) (line : Nat) : List Bracket :=
  ((d.rows[line]?.map Row.brackets).getD []).map d.resolve

end Document

end BracketTint
