import BracketTint.Scan.Nest

/-!
# Scanned Lines

All that the lines above pass on to a line is a `Context`: the region in which they end, the
brackets still open and the colors remembered. A `Row` is a line after it has been scanned, with the
contexts at its two ends, so that scanning can be taken up again at any line.
-/

namespace BracketTint

/-- What is passed on from one line to the next. -/
structure Context where
  region : Region := .code
  nest : Nest := {}
deriving DecidableEq

/-- A scanned line. -/
structure Row where
  /-- The context at the start of the line. -/
  entry : Context
  /-- The brackets of the line, in order. -/
  brackets : List Bracket
  /-- The context at the end of the line. -/
  exit : Context
deriving DecidableEq

namespace Row

/-- Scans a line. -/
def scan (s : Scheme) (line : Nat) (entry : Context) (text : String) : Row :=
  let view := entry.region.view text.toList
  let read := entry.nest.read s line view.glyphs
  { entry, brackets := read.2, exit := { region := view.region.afterLine, nest := read.1 } }

/-- Scans a line from a context of any origin. The contexts that arise within a document remember
places of a cycle only, but a given one may remember the last word, which has no next step. -/
def scanFrom (s : Scheme) (line : Nat) (entry : Context) (text : String) : Except Fault Row :=
  if entry.nest.overflows s line (entry.region.view text.toList).glyphs then .error .addOverflow
  else .ok (scan s line entry text)

/-- The matched pairs whose closer stands on the line, openers first. -/
def closedPairs (r : Row) : List (Position × Position) := r.brackets.filterMap Bracket.closedPair?

end Row

namespace Shift

/-- Moves the open brackets of a context. -/
def context (s : Shift) (c : Context) : Context := { c with nest := s.nest c.nest }

/-- Moves a scanned line with all that it refers to. -/
def row (s : Shift) (r : Row) : Row :=
  { entry := s.context r.entry, brackets := r.brackets.map s.bracket, exit := s.context r.exit }

/-- Moves a scanned line. A shift by nothing leaves it as it is. -/
def move (s : Shift) (r : Row) : Row := if s.distance = 0 then r else s.row r

end Shift

end BracketTint
