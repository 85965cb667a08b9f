import BracketTint.Word

/-!
# Splices of Lines

A splice replaces a stretch of lines by a number of new ones. It says how many lines come in, not
what they are. Splices are counted in words, and so can lie far outside a document: `fit?` brings
one inside, and `andThen` composes two that follow each other, with a fault where a number leaves
the range of a word.
-/

namespace BracketTint

/-- The lines from `start` up to `stop` are replaced by `count` lines. -/
structure Splice where
  start : Nat
  stop : Nat
  count : Nat
deriving DecidableEq, Repr

namespace Splice

/-- A splice with given bounds. One that would stop before it starts replaces nothing. -/
def of (start stop count : Nat) : Splice := ⟨start, max stop start, count⟩

/-- The splice of lines whose number stays the same. -/
def inPlace (start stop : Nat) : Splice := of start stop (stop - start)

/-- The number of lines that are replaced. -/
def removed (s : Splice) : Except Fault Nat := Word.sub s.stop s.start

/-- How many lines the text grows by. -/
def growth (s : Splice) : Except Fault Int := do
  let removed ← s.removed
  Word.subSigned (Word.toSigned s.count) (Word.toSigned removed)

/-- The splice within a text of `before` lines that leads to one of `after` lines: the bounds are
brought inside, and the number of new lines is what is left when the kept lines are taken away.
There is none if the new text is too short to hold the kept lines. -/
def fit? (s : Splice) (before after : Nat) : Option Splice :=
  let start := min s.start before
  let stop := min (max s.stop start) before
  let kept := before - (stop - start)
  if kept ≤ after then some ⟨start, stop, after - kept⟩ else none

/-- One splice for two that follow each other: it covers the lines that either of them touches. -/
def andThen (s next : Splice) : Except Fault Splice := do
  let reach ← Word.add s.start s.count
  let top := min s.start next.start
  let bottom := max reach next.stop
  let growth ← s.growth
  let stop ← Word.subSigned (Word.toSigned bottom) growth
  let covered ← Word.sub bottom top
  let removed ← next.removed
  let kept ← Word.sub covered removed
  let count ← Word.add kept next.count
  return ⟨top, Word.ofSigned stop, count⟩

end Splice

end BracketTint
