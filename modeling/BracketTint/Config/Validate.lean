import BracketTint.Config.Basic
import BracketTint.Region
import BracketTint.Text.Blank
import BracketTint.Text.Quoted

/-!
# From Configurations to Schemes

Checking a configuration never fails. What cannot be used is replaced by a default, with a warning.
The pairs are accepted all together or not at all: each must consist of two different characters
that are no quotes and occur in no other pair. Blank colors are left out.
-/

namespace BracketTint

/-- What is wrong with the text of a pair. -/
inductive PairProblem where
  | notTwo
  | equal
  | quote
  | overlap
deriving DecidableEq, Repr

namespace PairProblem

/-- The problem in words. -/
def message : PairProblem → String
  | notTwo => "must be exactly two characters"
  | equal => "opener and closer must differ"
  | quote => "quote characters cannot be brackets"
  | overlap => "characters overlap another pair"

end PairProblem

namespace Config

/-- A part of a configuration that was replaced by a default. -/
inductive Warning where
  | badPair (pair : String) (problem : PairProblem)
  | noPairs
  /-- No color is left for the owner of a palette. -/
  | noColors (owner : String)
  | noStrayColor
deriving DecidableEq, Repr

namespace Warning

/-- The warning in words. -/
def message : Warning → String
  | badPair pair problem =>
    "Invalid bracket pair " ++ Text.quoted pair ++ " (" ++ problem.message ++
      "), using default pairs"
  | noPairs => "No bracket pairs configured, using default pairs"
  | noColors owner => "Empty color list for " ++ owner ++ ", using default colors"
  | noStrayColor => "Empty orphan color, using default"

end Warning

/-- Reads the two characters of a pair, if they can join the pairs `before`. -/
def readPair (before : List (Char × Char)) (pair : String) : Except PairProblem (Char × Char) :=
  match pair.toList with
  | [o, c] =>
    if o = c then .error .equal
    else if Region.isQuote o || Region.isQuote c then .error .quote
    else if before.any fun p => p.1 == o || p.1 == c || p.2 == o || p.2 == c then .error .overlap
    else .ok (o, c)
  | _ => .error .notTwo

/-- Reads pairs that join the pairs `before`. -/
def readMorePairs (before : List (Char × Char)) :
    List String → Except Warning (List (Char × Char))
  | [] => if before.isEmpty then .error .noPairs else .ok before
  | pair :: rest =>
    match readPair before pair with
    | .error problem => .error (.badPair pair problem)
    | .ok p => readMorePairs (before ++ [p]) rest

/-- Reads all pairs, or says what is wrong with the first that cannot be used. -/
def readPairs (pairs : List String) : Except Warning (List (Char × Char)) := readMorePairs [] pairs

/-- The pairs that take the place of unusable ones. -/
def standardPairs : List (Char × Char) := [('(', ')'), ('[', ']'), ('\x7b', '\x7d')]

/-- The colors of a palette that can be used, or the default ones. -/
def readPalette (owner : String) (palette : List String) : List String × List Warning :=
  let usable := palette.filter fun color => !Text.isBlank color
  if usable.isEmpty then (defaultPalette, [.noColors owner]) else (usable, [])

/-- A stray color that can be used. -/
def readStrayColor (color : String) : String × List Warning :=
  if Text.isBlank color then (defaultStrayColor, [.noStrayColor]) else (color, [])

/-- The bracket pairs of the section for a shared cycle, with warnings. -/
def Shared.read (s : Shared) : List BracketPair × List Warning :=
  let palette := readPalette CycleScope.consecutive.name s.palette
  let strayColor := readStrayColor s.strayColor
  let colored (p : Char × Char) : BracketPair :=
    { opener := p.1, closer := p.2, palette := palette.1, strayColor := strayColor.1 }
  match readPairs s.pairs with
  | .ok pairs => (pairs.map colored, palette.2 ++ strayColor.2)
  | .error warning => (standardPairs.map colored, palette.2 ++ strayColor.2 ++ [warning])

/-- A bracket pair with the colors of its entry, with warnings. -/
def Own.read (p : Char × Char) (entry : Own) : BracketPair × List Warning :=
  let palette := readPalette entry.pair entry.palette
  let strayColor := readStrayColor entry.strayColor
  ({ opener := p.1, closer := p.2, palette := palette.1, strayColor := strayColor.1 },
    palette.2 ++ strayColor.2)

/-- The bracket pairs of the section for cycles of their own, with warnings. If the pairs cannot be
used, their colors are not used either. -/
def readOwn (entries : List Own) : List BracketPair × List Warning :=
  match readPairs (entries.map Own.pair) with
  | .ok pairs =>
    let read := List.zipWith Own.read pairs entries
    (read.map (·.1), read.flatMap (·.2))
  | .error warning =>
    (standardPairs.map fun p =>
      { opener := p.1, closer := p.2, palette := defaultPalette, strayColor := defaultStrayColor },
      [warning])

/-- The scheme that a configuration asks for, and what had to be replaced. -/
def validate (c : Config) : Scheme × List Warning :=
  let read := match c.scope with
    | .consecutive => c.shared.read
    | .independent => readOwn c.own
  ({ pairs := read.1, scope := c.scope, avoidRepeat := c.avoidRepeat, rotate := c.rotate
     delay := c.delay }, read.2)

end Config

/-- The scheme of a user who asks for nothing. -/
def Scheme.standard : Scheme := (Config.validate {}).1

end BracketTint
