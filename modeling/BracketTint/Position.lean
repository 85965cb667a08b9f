import BracketTint.Word

/-!
# Positions in a Text

A position is a line and a column, both from zero; columns count characters. Positions are ordered
as they stand in the text, lines first. When lines are added or taken away above it, a position
moves with its line: a `Shift` says which lines move and how far.
-/

namespace BracketTint

/-- A place in a text. -/
structure Position where
  line : Nat
  column : Nat
deriving DecidableEq, Repr

namespace Position

/-- Text order: by line, then by column. -/
instance : Ord Position where
  compare := compareLex (compareOn line) (compareOn column)

instance : Std.TransOrd Position :=
  inferInstanceAs (Std.TransCmp (compareLex (compareOn line) (compareOn column)))

instance : Std.LawfulEqOrd Position where
  eq_of_compare {a b} h := by
    obtain ⟨hline, hcolumn⟩ := Ordering.then_eq_eq.1 h
    have hl : a.line = b.line := Std.LawfulEqCmp.eq_of_compare hline
    have hc : a.column = b.column := Std.LawfulEqCmp.eq_of_compare hcolumn
    cases a
    cases b
    simp_all

end Position

/-- A movement of all lines from `top` on by `distance`. -/
structure Shift where
  /-- The first line that moves. -/
  top : Nat
  /-- How far the lines move, down if positive. -/
  distance : Int
deriving DecidableEq, Repr

namespace Shift

/-- Where a line goes. -/
def line (s : Shift) (n : Nat) : Nat :=
  if s.top ≤ n then Word.move n s.distance else n

/-- Where a position goes. -/
def position (s : Shift) (p : Position) : Position := { p with line := s.line p.line }

end Shift

end BracketTint
