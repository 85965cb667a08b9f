/-!
# Color Schemes

A scheme says which characters are brackets and how they are colored: the bracket pairs with their
palettes, whether the pairs share one color cycle or have one each, and how an opener's place in the
cycle is chosen. A pair is known by its place in the scheme's list, and where a character belongs to
several pairs the first one counts.
-/

namespace BracketTint

/-- The two sides of a bracket pair. -/
inductive Side where
  | opener
  | closer
deriving DecidableEq, Repr

/-- A pair of bracket characters and the colors for it. -/
structure BracketPair where
  opener : Char
  closer : Char
  /-- The colors of matched brackets, used in turn. -/
  palette : List String
  /-- The color of brackets without a partner. -/
  strayColor : String
deriving DecidableEq, Repr

namespace BracketPair

/-- The number of steps after which the colors repeat. -/
def cycleLength (p : BracketPair) : Nat := max p.palette.length 1

/-- The color at a place of the cycle. A pair with an empty palette has its stray color only. -/
def color (p : BracketPair) (index : Nat) : String :=
  p.palette.getD (index % p.cycleLength) p.strayColor

/-- The side of the pair that a character is. -/
def side? (p : BracketPair) (c : Char) : Option Side :=
  if c = p.opener then some .opener else if c = p.closer then some .closer else none

end BracketPair

/-- Which brackets share a color cycle. -/
inductive CycleScope where
  /-- All pairs run through one cycle together. -/
  | consecutive
  /-- Each pair has a cycle of its own. -/
  | independent
deriving DecidableEq, Repr

/-- What counts as a bracket, and how brackets are colored. -/
structure Scheme where
  pairs : List BracketPair
  scope : CycleScope
  /-- An opener never takes the color of the opener before it. -/
  avoidRepeat : Bool
  /-- Each opener takes the color after that of the opener before it. -/
  rotate : Bool
  /-- How long a document has to be quiet before it is scanned again, in milliseconds. -/
  delay : Nat
deriving DecidableEq, Repr

namespace Scheme

/-- Whether colors depend on the opener before, and not on nesting alone. -/
def remembers (s : Scheme) : Bool := s.avoidRepeat || s.rotate

/-- The pair and the side that a character stands for. -/
def classify (s : Scheme) (c : Char) : Option (Nat × Side) :=
  s.pairs.zipIdx.findSome? fun (p, i) => (p.side? c).map fun side => (i, side)

/-- The cycle length of a pair. -/
def cycleLength (s : Scheme) (pair : Nat) : Nat :=
  match s.pairs[pair]? with
  | some p => p.cycleLength
  | none => 1

/-- No cycle is empty, whatever the palettes are. So the places of a cycle are never counted modulo
zero, and there is no fault for that. -/
theorem cycleLength_pos (s : Scheme) (pair : Nat) : 0 < s.cycleLength pair := by
  rw [cycleLength]
  split
  next p _ => exact Nat.lt_of_lt_of_le Nat.zero_lt_one (Nat.le_max_right _ _)
  next => exact Nat.zero_lt_one

end Scheme

end BracketTint
