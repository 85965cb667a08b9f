import BracketTint.Document.Update
import BracketTint.Proofs.Relocation

/-!
# Scanning and the Movement of Lines

A shift moves lines as a whole, so scanning commutes with it (`Row.scan_shift`, and
`Row.scanFrom_shift` for a context of any origin), saturation at the ends of the word range
included: to scan a line in its new place, from the context moved there, is to move the row that was
scanned in the old place. Nothing is said here of single brackets, as this is one of the movements
of `Row.scan_relocate`.

Over several lines the new line numbers have to follow each other, as the old ones do. Below the
top of a shift they do as long as no line reaches the end of the word range
(`Shift.line_of_top_le`), and then a whole stretch of rows moves as one
(`Document.scanLines_move`).
-/

namespace BracketTint

variable (shift : Shift)

/-! ### One line -/

/-- A shift carries each line as a whole and leaves the columns alone. -/
theorem Shift.carries (line : Nat) : Carries shift.position line (shift.line line) 0 :=
  fun _ => rfl

/-- **Scanning a line commutes with a shift.** The row that is scanned in the new place of a line,
from the moved context, is the moved row. -/
theorem Row.scan_shift (s : Scheme) (line : Nat) (entry : Context) (text : String) :
    Row.scan s (shift.line line) (shift.context entry) text =
      shift.row (Row.scan s line entry text) :=
  Row.scan_relocate (shift.carries line) (View.indent_zero _).symm s

/-- **Scanning commutes with a shift, whatever the context.** For every text and line, every context
and scheme and every shift: the scan in the new place of the line, from the moved context, returns
the moved row with its brackets, links, depths, colors and both contexts, and it faults if and only
if the scan in the old place does. Several lines may go to one, as at the ends of the word range,
and lines below may go above others; the scan does not look at it. -/
theorem Row.scanFrom_shift (s : Scheme) (line : Nat) (entry : Context) (text : String) :
    Row.scanFrom s (shift.line line) (shift.context entry) text =
      (Row.scanFrom s line entry text).map shift.row := by
  have hview : entry.region.view text.toList = (entry.region.view text.toList).indent 0 :=
    (View.indent_zero _).symm
  exact Row.scanFrom_relocate (shift.carries line) hview s

/-- Lines that would leave the word range stay on its first or last line. -/
example : Shift.line ⟨3, -9⟩ 5 = 0 ∧ Shift.line ⟨3, -9⟩ 3 = 0 ∧ Shift.line ⟨3, -9⟩ 2 = 2 ∧
    Shift.line ⟨3, 9⟩ (Word.size - 2) = Word.size - 1 := by decide

/-- The pairs that are closed on a moved row are the moved pairs of the row. -/
theorem Row.closedPairs_row (r : Row) :
    (shift.row r).closedPairs =
      r.closedPairs.map fun e => (shift.position e.1, shift.position e.2) := by
  have hbracket (b : Bracket) : (shift.bracket b).closedPair? =
      b.closedPair?.map fun e => (shift.position e.1, shift.position e.2) := by
    obtain ⟨pair, side, span, depth, color, link⟩ := b
    cases side <;> cases link <;> rfl
  simp only [Row.closedPairs, Shift.row, List.filterMap_map, List.map_filterMap]
  exact congrArg (List.filterMap · r.brackets) (funext hbracket)

/-! ### Many lines -/

/-- Below the top of a shift, lines move by its distance as long as they stay in the word
range. -/
theorem Shift.line_of_top_le {shift : Shift} {line new : Nat} (htop : shift.top ≤ line)
    (hnew : (line : Int) + shift.distance = new) (hsize : new < Word.size) :
    shift.line line = new := by
  simp only [Shift.line, htop, if_true, Word.move, hnew, Int.toNat_natCast]
  omega

/-- Above the top of a shift nothing moves. -/
theorem Shift.position_of_lt {shift : Shift} {p : Position} (h : p.line < shift.top) :
    shift.position p = p := by
  simp [Shift.position, Shift.line, Nat.not_le.2 h]

/-- The context that a moved row ends in, given the one that the row ends in: the counterpart of
`Shift.move` for contexts. -/
def Shift.moveContext (c : Context) : Context :=
  if shift.distance = 0 then c else shift.context c

/-- The end of a moved row. -/
theorem Shift.exit_move (r : Row) : (shift.move r).exit = shift.moveContext r.exit := by
  simp only [Shift.move, Shift.moveContext]
  split <;> rfl

/-- The two ends of a pair that moves with its row: the counterpart of `Shift.move` for pairs. -/
def Shift.movePair (e : Position × Position) : Position × Position :=
  if shift.distance = 0 then e else (shift.position e.1, shift.position e.2)

/-- A shift by nothing moves no pair. -/
theorem Shift.movePair_eq_id {shift : Shift} (hd : shift.distance = 0) : shift.movePair = id :=
  funext fun _ => if_pos hd

/-- Any other shift moves both ends of a pair. -/
theorem Shift.movePair_eq_position {shift : Shift} (hd : shift.distance ≠ 0) :
    shift.movePair = fun e => (shift.position e.1, shift.position e.2) :=
  funext fun _ => if_neg hd

/-- A pair above the top of a shift stays. -/
theorem Shift.movePair_of_lt {shift : Shift} {e : Position × Position}
    (h₁ : e.1.line < shift.top) (h₂ : e.2.line < shift.top) : shift.movePair e = e := by
  rw [Shift.movePair, Shift.position_of_lt h₁, Shift.position_of_lt h₂]
  split <;> rfl

/-- The pairs that are closed on a moved row. -/
theorem Row.closedPairs_move (r : Row) :
    (shift.move r).closedPairs = r.closedPairs.map shift.movePair := by
  by_cases hd : shift.distance = 0
  · rw [Shift.movePair_eq_id hd, List.map_id, Shift.move, if_pos hd]
  · rw [Shift.movePair_eq_position hd, Shift.move, if_neg hd, closedPairs_row]

/-- **A stretch of rows moves as one.** The rows of some lines below the top of a shift, moved, are
the rows of the same lines scanned in the new place from the moved context. -/
theorem Document.scanLines_move {shift : Shift} (s : Scheme) {line new : Nat} {entry : Context}
    {texts : List String} (htop : shift.top ≤ line) (hnew : (line : Int) + shift.distance = new)
    (hsize : new + texts.length ≤ Word.size) :
    (scanLines s line entry texts).map shift.move =
      scanLines s new (shift.moveContext entry) texts := by
  induction texts generalizing line new entry with
  | nil => rfl
  | cons text rest ih =>
      rw [List.length_cons] at hsize
      have hrow : shift.move (Row.scan s line entry text) =
          Row.scan s new (shift.moveContext entry) text := by
        by_cases hd : shift.distance = 0
        · obtain rfl : line = new := by omega
          simp [Shift.move, Shift.moveContext, hd]
        · simp only [Shift.move, Shift.moveContext, hd, if_false]
          rw [← Row.scan_shift, Shift.line_of_top_le htop hnew (by omega)]
      have hrest : (scanLines s (line + 1) (Row.scan s line entry text).exit rest).map shift.move =
          scanLines s (new + 1) (shift.moveContext (Row.scan s line entry text).exit) rest :=
        ih (by omega) (by omega) (by omega)
      simp only [scanLines, List.map_cons, hrest, hrow]
      rw [← Shift.exit_move, hrow]

end BracketTint
