import BracketTint.Config.Decode
import BracketTint.Text.File

/-!
# Configuration Files

A configuration file that cannot be used is replaced by the default configuration, and the reason is
kept.
-/

namespace BracketTint.Config

/-- Why a configuration file was not used. -/
inductive LoadProblem where
  | unreadable (failure : Text.ReadFailure)
  /-- The text is no configuration, as the report tells. -/
  | invalid (report : String)
deriving DecidableEq, Repr

/-- The reason in words. -/
def LoadProblem.message : LoadProblem → String
  | unreadable failure => "Failed to read config: " ++ failure.message
  | invalid report => "Invalid config: " ++ report

/-- The configuration that a text stands for. -/
def ofText (text : String) : Config × Option LoadProblem :=
  match parse text with
  | .ok config => (config, none)
  | .error failure => ({}, some (.invalid (failure.report text)))

/-- The configuration of a file. -/
def load (content : Text.Content) : Config × Option LoadProblem :=
  match content.text with
  | .ok text => ofText text
  | .error failure => ({}, some (.unreadable failure))

/-- The configuration of a file that may be missing. -/
def loadIfPresent : Option Text.Content → Config × Option LoadProblem
  | some content => load content
  | none => ({}, none)

end BracketTint.Config
