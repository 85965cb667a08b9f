/-!
# Machine Words

Line numbers and line counts are 64-bit words. They are kept as natural numbers, and the limits of
a word are part of each operation: a sum or a difference that leaves its range is a `Fault`, a word
can be read as a signed number and back (two's complement), and moving a word by a signed distance
stops at either end of the range.
-/

namespace BracketTint

/-- The ways in which a computation on lines can go out of bounds. Remainders are formed too, but
only modulo the length of a color cycle, and that is never zero (`Scheme.cycleLength_pos`). -/
inductive Fault where
  /-- A sum is too large for a word. -/
  | addOverflow
  /-- A difference lies outside the range of its kind of word. -/
  | subOverflow
  /-- A line was asked for beyond the end of a text with `count` lines. -/
  | noSuchLine (count index : Nat)
deriving DecidableEq, Repr

namespace Fault

/-- The text under which a fault is reported. -/
def message : Fault → String
  | addOverflow => "attempt to add with overflow"
  | subOverflow => "attempt to subtract with overflow"
  | noSuchLine count index =>
    "index out of bounds: the len is " ++ toString count ++ " but the index is " ++ toString index

end Fault

namespace Word

/-- The number of words, the 64th power of two. -/
def size : Nat := 18446744073709551616

/-- The number of words that are not negative when read as signed numbers, which is half of all. -/
def half : Nat := 9223372036854775808

/-- The sum of two words, if it is a word. -/
def add (a b : Nat) : Except Fault Nat :=
  if a + b < size then .ok (a + b) else .error .addOverflow

/-- The difference of two words, if it is a word. -/
def sub (a b : Nat) : Except Fault Nat :=
  if b ≤ a then .ok (a - b) else .error .subOverflow

/-- The signed number with the same 64 bits as a word. -/
def toSigned (a : Nat) : Int := Int.bmod a size

/-- The word with the same 64 bits as a signed number. -/
def ofSigned (a : Int) : Nat := (a % size).toNat

/-- The difference of two signed words, if it is a signed word. -/
def subSigned (a b : Int) : Except Fault Int :=
  if -half ≤ a - b ∧ a - b < half then .ok (a - b) else .error .subOverflow

/-- A word moved by a signed distance. It stays at the first or the last word where it would leave
the range. -/
def move (a : Nat) (distance : Int) : Nat :=
  min (a + distance).toNat (size - 1)

/-- A word that is not the last one and is moved by nothing stays where it is. -/
theorem move_zero {a : Nat} (h : a < size) : move a 0 = a := by
  simp only [move, Int.add_zero, Int.toNat_natCast]
  omega

end Word

end BracketTint
