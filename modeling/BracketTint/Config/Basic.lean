import BracketTint.Scheme
import BracketTint.Update.Timer

/-!
# Configurations

A configuration is what a user asks for, before it is checked. Pairs are texts that should have two
characters, and colors are texts that should not be blank. Both color cycle scopes have a section of
their own, and both sections are kept, whichever scope is chosen.
-/

namespace BracketTint

namespace Config

/-- The pairs of a configuration that names none. -/
def defaultPairs : List String := ["()", "[]", "\x7b\x7d"]

/-- The colors of a configuration that names none. -/
def defaultPalette : List String := ["Gold", "Orchid", "LightSkyBlue"]

/-- The color of brackets without a partner, if none is named. -/
def defaultStrayColor : String := "Red"

/-- The section for pairs that share one color cycle. -/
structure Shared where
  pairs : List String := defaultPairs
  palette : List String := defaultPalette
  strayColor : String := defaultStrayColor
deriving DecidableEq, Repr

/-- An entry of the section for pairs with color cycles of their own. -/
structure Own where
  pair : String
  palette : List String := defaultPalette
  strayColor : String := defaultStrayColor
deriving DecidableEq, Repr

/-- The section for pairs with color cycles of their own, if it is missing. -/
def defaultOwn : List Own := defaultPairs.map fun pair => { pair }

end Config

/-- What a user asks for. -/
structure Config where
  /-- The pause before a document is scanned again, in milliseconds. -/
  delay : Nat := QuietTimer.defaultDelay
  avoidRepeat : Bool := false
  rotate : Bool := false
  scope : CycleScope := .consecutive
  shared : Config.Shared := {}
  own : List Config.Own := Config.defaultOwn
deriving DecidableEq, Repr

namespace CycleScope

/-- The name of a scope. -/
def name : CycleScope → String
  | consecutive => "consecutive"
  | independent => "independent"

/-- The scope with exactly this name. -/
def ofName? (s : String) : Option CycleScope :=
  [consecutive, independent].find? fun scope => scope.name == s

/-- The scope with this name, whatever the case of its letters. -/
def ofText? (s : String) : Option CycleScope := ofName? s.toLower

/-- What is said of a text that names no scope. -/
def unknownMessage (s : String) : String :=
  "Unknown color mode '" ++ s ++ "'. Expected 'consecutive' or 'independent'"

end CycleScope

end BracketTint
