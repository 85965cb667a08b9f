import BracketTint.Region
import BracketTint.Scan.Bracket
import BracketTint.Table

/-!
# Nesting

While brackets are read one after another, a `Nest` holds those that are open and remembers the
colors of the latest openers. A closer takes the innermost open bracket if that belongs to the same
pair; otherwise the closer is stray and nothing changes.

The color of an opener follows from how many brackets are open around it, or from the color of the
opener before it (`Scheme.openIndex`). A closer has the color of its opener: where colors follow
from nesting alone it is computed again from what stays open, and otherwise taken from the open
bracket (`Scheme.closeIndex`).
-/

namespace BracketTint

/-- An open bracket. -/
structure Frame where
  pair : Nat
  position : Position
  /-- Its place in the color cycle. -/
  color : Nat
deriving DecidableEq, Repr

/-- The colors of the latest openers, by cycle. -/
structure ColorMemory where
  /-- The latest opener of the cycle that all pairs share. -/
  shared : Option Nat := none
  /-- The latest opener of each pair's own cycle. -/
  own : Table Nat Nat := ∅
deriving DecidableEq

/-- The open brackets, innermost first, and the colors remembered. -/
structure Nest where
  stack : List Frame := []
  memory : ColorMemory := {}
deriving DecidableEq

namespace Scheme

/-- The color remembered for the cycle of a pair. -/
def latest (s : Scheme) (memory : ColorMemory) (pair : Nat) : Option Nat :=
  match s.scope with
  | .consecutive => memory.shared
  | .independent => memory.own.get? pair

/-- Remembers a color for the cycle of a pair, if colors depend on it. -/
def remember (s : Scheme) (memory : ColorMemory) (pair index : Nat) : ColorMemory :=
  if s.remembers then
    match s.scope with
    | .consecutive => { memory with shared := some index }
    | .independent => { memory with own := memory.own.insert pair index }
  else memory

/-- How many of the open brackets count for the cycle of a pair. -/
def nesting (s : Scheme) (pair : Nat) (stack : List Frame) : Nat :=
  match s.scope with
  | .consecutive => stack.length
  | .independent => stack.countP fun f => f.pair == pair

/-- The place in the cycle of a pair before any step to avoid a repeat. -/
def plainIndex (s : Scheme) (nest : Nest) (pair : Nat) : Nat :=
  if s.rotate then
    match s.latest nest.memory pair with
    | none => 0
    | some index => (index + 1) % s.cycleLength pair
  else s.nesting pair nest.stack % s.cycleLength pair

/-- The place in the color cycle of an opener that is read next. -/
def openIndex (s : Scheme) (nest : Nest) (pair : Nat) : Nat :=
  let index := s.plainIndex nest pair
  let length := s.cycleLength pair
  if s.avoidRepeat && decide (1 < length) && s.latest nest.memory pair == some index then
    (index + 1) % length
  else index

/-- The place in the color cycle of a closer that takes `frame` and leaves `rest` open. -/
def closeIndex (s : Scheme) (frame : Frame) (rest : List Frame) : Nat :=
  if s.remembers then frame.color
  else s.nesting frame.pair rest % s.cycleLength frame.pair

/-- Whether the step after the remembered color of a pair is too large for a word. -/
def overflows (s : Scheme) (memory : ColorMemory) (pair : Nat) : Bool :=
  s.rotate && (s.latest memory pair).any fun index => decide (Word.size ≤ index + 1)

/-- Chooses the color of an opener, which is remembered from then on. -/
def choose (s : Scheme) (nest : Nest) (pair : Nat) : Except Fault (Nat × ColorMemory) :=
  if s.overflows nest.memory pair then .error .addOverflow
  else
    let index := s.openIndex nest pair
    .ok (index, s.remember nest.memory pair index)

end Scheme

namespace Nest

/-- Reads an opener. -/
def enter (s : Scheme) (n : Nest) (pair : Nat) (p : Position) : Nest × Bracket :=
  let color := s.openIndex n pair
  ({ stack := ⟨pair, p, color⟩ :: n.stack, memory := s.remember n.memory pair color },
    { pair, side := .opener, span := ⟨p.line, p.column, p.column + 1⟩
      depth := n.stack.length + 1, color, link := .waiting })

/-- Reads a closer. -/
def leave (s : Scheme) (n : Nest) (pair : Nat) (p : Position) : Nest × Bracket :=
  let found (color : Nat) (link : Link) : Bracket :=
    { pair, side := .closer, span := ⟨p.line, p.column, p.column + 1⟩
      depth := n.stack.length, color, link }
  match n.stack with
  | frame :: rest =>
    if frame.pair = pair then
      ({ n with stack := rest }, found (s.closeIndex frame rest) (.matched frame.position))
    else (n, found 0 .stray)
  | [] => (n, found 0 .stray)

/-- Reads a bracket of either side. -/
def meet (s : Scheme) (n : Nest) (pair : Nat) (side : Side) (p : Position) : Nest × Bracket :=
  match side with
  | .opener => n.enter s pair p
  | .closer => n.leave s pair p

/-- Reads the visible characters of a line. -/
def read (s : Scheme) (line : Nat) : Nest → List Glyph → Nest × List Bracket
  | n, [] => (n, [])
  | n, g :: rest =>
    match s.classify g.char with
    | none => read s line n rest
    | some (pair, side) =>
      let met := n.meet s pair side ⟨line, g.column⟩
      let later := read s line met.1 rest
      (later.1, met.2 :: later.2)

/-- Whether the color of some opener among the visible characters of a line overflows. -/
def overflows (s : Scheme) (line : Nat) : Nest → List Glyph → Bool
  | _, [] => false
  | n, g :: rest =>
    match s.classify g.char with
    | none => overflows s line n rest
    | some (pair, side) =>
      (side == .opener && s.overflows n.memory pair) ||
        overflows s line (n.meet s pair side ⟨line, g.column⟩).1 rest

end Nest

namespace Shift

/-- Moves an open bracket. -/
def frame (s : Shift) (f : Frame) : Frame := { f with position := s.position f.position }

/-- Moves the open brackets. -/
def nest (s : Shift) (n : Nest) : Nest := { n with stack := n.stack.map s.frame }

end Shift

end BracketTint
