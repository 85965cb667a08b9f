import BracketTint.Position
import BracketTint.Scheme

/-!
# Brackets Found in a Text

A `Bracket` is one occurrence of a bracket character, with its depth and its place in the color
cycle. How it is linked to a partner is known at once for a closer. An opener waits for its closer,
which may stand many lines below.
-/

namespace BracketTint

/-- A stretch of one line: the columns from `start` up to `stop`. -/
structure Span where
  line : Nat
  start : Nat
  stop : Nat
deriving DecidableEq, Repr

/-- How a bracket is linked to its partner. -/
inductive Link where
  /-- An opener whose partner has not been looked for. -/
  | waiting
  /-- A bracket whose partner stands at a known place. -/
  | matched (partner : Position)
  /-- A bracket without a partner. -/
  | stray
deriving DecidableEq, Repr

namespace Link

/-- The place of the partner. -/
def partner? : Link → Option Position
  | matched p => some p
  | _ => none

end Link

/-- An occurrence of a bracket. -/
structure Bracket where
  /-- The pair that it belongs to. -/
  pair : Nat
  side : Side
  span : Span
  /-- How many brackets are open at it. An opener counts itself, and a closer its opener. -/
  depth : Nat
  /-- Its place in the color cycle. -/
  color : Nat
  link : Link
deriving DecidableEq, Repr

namespace Bracket

/-- Where the bracket stands. -/
def position (b : Bracket) : Position := ⟨b.span.line, b.span.start⟩

/-- Whether the bracket has no partner. -/
def isStray (b : Bracket) : Bool := b.link == .stray

/-- A matched closer with its opener: the two places, opener first. -/
def closedPair? (b : Bracket) : Option (Position × Position) :=
  match b.side with
  | .opener => none
  | .closer => b.link.partner?.map fun opener => (opener, b.position)

end Bracket

namespace Shift

/-- Moves the partner of a bracket. -/
def link (s : Shift) : Link → Link
  | .matched p => .matched (s.position p)
  | l => l

/-- Moves a bracket and its partner. -/
def bracket (s : Shift) (b : Bracket) : Bracket :=
  { b with span := { b.span with line := s.line b.span.line }, link := s.link b.link }

end Shift

/-- The color of a bracket: the stray color of its pair if it has no partner, and otherwise the
color at its place in the cycle. A pair outside the scheme has no color. -/
def Scheme.colorOf (s : Scheme) (b : Bracket) : String :=
  match s.pairs[b.pair]? with
  | none => ""
  | some p => if b.isStray then p.strayColor else p.color b.color

end BracketTint
