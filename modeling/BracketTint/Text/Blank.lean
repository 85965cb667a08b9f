/-!
# Blank Text

A character is white space if it has the Unicode property of that name. Text is blank if it has no
other characters.
-/

namespace BracketTint.Text

/-- The first and the last code point of each stretch of white space. -/
def whiteSpace : List (Nat × Nat) :=
  [(0x09, 0x0d), (0x20, 0x20), (0x85, 0x85), (0xa0, 0xa0), (0x1680, 0x1680), (0x2000, 0x200a),
    (0x2028, 0x2029), (0x202f, 0x202f), (0x205f, 0x205f), (0x3000, 0x3000)]

/-- Whether a code point lies in one of some stretches. -/
def within (stretches : List (Nat × Nat)) (n : Nat) : Bool :=
  stretches.any fun r => decide (r.1 ≤ n ∧ n ≤ r.2)

/-- Whether a character is white space. -/
def isWhiteSpace (c : Char) : Bool := within whiteSpace c.toNat

/-- Whether a text is empty or consists of white space. -/
def isBlank (s : String) : Bool := s.toList.all isWhiteSpace

end BracketTint.Text
