import BracketTint.Document.Basic
import BracketTint.Splice

/-!
# Updates of Documents

After a splice a document is not scanned anew from the top. The rows above the splice stay, the new
lines are scanned, and scanning goes on below them only until a line ends in the same context as it
did before, apart from the movement of lines. From there on the old rows are right and are moved.

The partner table is brought along: pairs of the rows that were scanned anew are taken out, the
others move with their lines, and the pairs found by the new scan are put in.
-/

namespace BracketTint

/-- How much of a text was scanned for an update. -/
structure Effort where
  /-- The number of lines that were scanned. -/
  scanned : Nat
  /-- The line at whose end the old and the new scan agreed. -/
  settledAt : Option Nat
deriving DecidableEq, Repr

/-- The part of a document below a splice, scanned until it settles. -/
structure Settled where
  /-- The rows that were scanned anew. -/
  scanned : List Row
  /-- The old rows in their place. -/
  replaced : List Row
  /-- The old rows below, which stay. -/
  kept : List Row
  /-- The line at whose end the old and the new scan agreed. -/
  settledAt : Option Nat
deriving DecidableEq

namespace Document

/-- The context at the end of a list of rows that starts at the top of a text. -/
def contextAfter (rows : List Row) : Context := (rows.getLast?.map Row.exit).getD {}

/-- Scans the lines that a splice within the document brought in. -/
def scanInserted (d : Document) (fitted : Splice) (lines : List String) :
    Except Fault (List Row) :=
  let bottom := fitted.start + fitted.count
  if bottom ≤ lines.length then
    .ok (scanLines d.scheme fitted.start (contextAfter (d.rows.take fitted.start))
      ((lines.take bottom).drop fitted.start))
  else .error (.noSuchLine lines.length lines.length)

/-- Scans the lines `texts` from `line` on, until one ends in the context in which its old row ends
after a shift. `total` is the number of lines of the whole text. -/
def settle (s : Scheme) (shift : Shift) (total : Nat) :
    Nat → Context → List Row → List String → Except Fault Settled
  | _, _, [], _ => .ok ⟨[], [], [], none⟩
  | line, _, _ :: _, [] => .error (.noSuchLine total line)
  | line, entry, old :: rows, text :: texts =>
    let row := Row.scan s line entry text
    if row.exit = (shift.move old).exit then .ok ⟨[row], [old], rows, some line⟩
    else do
      let below ← settle s shift total (line + 1) row.exit rows texts
      return { below with scanned := row :: below.scanned, replaced := old :: below.replaced }

/-- Moves the places of all pairs in a partner table. -/
def movePartners (shift : Shift) (partners : Table Position Position) : Table Position Position :=
  if shift.distance = 0 then partners
  else .ofList (partners.entries.map fun e => (shift.position e.1, shift.position e.2))

/-- The document in which the lines of a splice are replaced by the rows `fresh`, and the rows below
are `below`. -/
def assemble (d : Document) (shift : Shift) (fitted : Splice) (fresh : List Row)
    (below : Settled) : Document :=
  let scanned := fresh ++ below.scanned
  let replaced := (d.rows.take fitted.stop).drop fitted.start ++ below.replaced
  let stale := (replaced.flatMap Row.closedPairs).map (·.1)
  { d with
    rows := d.rows.take fitted.start ++ scanned ++ below.kept.map shift.move
    partners := (movePartners shift (d.partners.eraseAll stale)).insertAll
      (scanned.flatMap Row.closedPairs) }

/-- The document after a splice that led to `lines`, and the effort that it took. -/
def update (d : Document) (splice : Splice) (lines : List String) :
    Except Fault (Document × Effort) :=
  match splice.fit? d.lineCount lines.length with
  | none => .ok (parse d.scheme lines, ⟨lines.length, none⟩)
  | some fitted => do
    let growth ← fitted.growth
    let shift : Shift := ⟨fitted.stop, growth⟩
    let fresh ← d.scanInserted fitted lines
    let bottom := fitted.start + fitted.count
    let entry := contextAfter (d.rows.take fitted.start ++ fresh)
    let below ← settle d.scheme shift lines.length bottom entry (d.rows.drop fitted.stop)
      (lines.drop bottom)
    return (d.assemble shift fitted fresh below,
      ⟨fresh.length + below.scanned.length, below.settledAt⟩)

end Document

end BracketTint
