import BracketTint.Config.Basic
import BracketTint.Text.Quoted
import BracketTint.Toml.Document

/-!
# Configurations from TOML

The options stand in the table `colorizer`, with one table below it for the pairs that share a color
cycle and an array of tables for the others. Options that are not known are passed over, and a
missing one has its default; one of the wrong type spoils the whole configuration.

A group of options may also be written as an array of its values, in the order in which they are
listed here, of which the last ones may be missing. A date in place of a group counts as a group
with no known option.
-/

namespace BracketTint.Config

open Toml (Value Entries Failure)

/-! ### Types of options -/

/-- A value as it is shown in messages. -/
def shown : Value → String
  | .scalar _ (.string s) => "string " ++ Text.quoted s
  | .scalar _ (.integer n) => "integer `" ++ toString n ++ "`"
  | .scalar _ (.float text) => "floating point `" ++ text ++ "`"
  | .scalar _ (.boolean b) => "boolean `" ++ (if b then "true" else "false") ++ "`"
  | .scalar _ (.dateTime _) => "map"
  | .table .. => "map"
  | .array .. => "sequence"
  | .tables .. => "sequence"

/-- Tells that something else was expected in the place of a value. -/
def mismatch {α : Type} (expected : String) (v : Value) : Except Failure α :=
  .error { place := v.place, message := "invalid type: " ++ shown v ++ ", expected " ++ expected }

/-- A text. -/
def text : Value → Except Failure String
  | .scalar _ (.string s) => .ok s
  | v => mismatch "a string" v

/-- A truth value. -/
def truth : Value → Except Failure Bool
  | .scalar _ (.boolean b) => .ok b
  | v => mismatch "a boolean" v

/-- A number that is not negative. It has 63 bits, as every positive number in a document. -/
def number (v : Value) : Except Failure Nat :=
  match v with
  | .scalar place (.integer n) =>
    if 0 ≤ n then .ok n.toNat
    else .error { place, message := "invalid value: " ++ shown v ++ ", expected u64" }
  | _ => mismatch "u64" v

/-- The items of an array. -/
def items? : Value → Option (List Value)
  | .array _ items => some items
  | .tables _ items => some (items.map fun (place, entries) => .table place .header entries)
  | _ => none

/-- A list of things of one kind. -/
def list {α : Type} (item : Value → Except Failure α) (v : Value) : Except Failure (List α) :=
  match items? v with
  | some items => items.mapM item
  | none => mismatch "a sequence" v

/-- Whether a value is a table or an array with nothing in it. -/
def isEmpty : Value → Bool
  | .table _ _ [] => true
  | .array _ [] => true
  | _ => false

/-- The scope of color cycles with a name that is written at a place. -/
def namedScope (place : Toml.Place) (name : String) : Except Failure CycleScope :=
  match CycleScope.ofName? name with
  | some scope => .ok scope
  | none => .error {
      place, message := "unknown variant `" ++ name ++ "`, expected `consecutive` or `independent`" }

/-- The scope of color cycles: its name, or a table with its name and nothing under it. -/
def cycleScope : Value → Except Failure CycleScope
  | .scalar place (.string name) => namedScope place name
  | .table _ _ [(name, v)] => do
    let scope ← namedScope v.place name
    if isEmpty v then return scope
    else throw { place := v.place, message := "expected empty table" }
  | .table place .. => .error { place, message := "wanted exactly 1 element" }
  | v => .error { place := v.place, message := "wanted string or table" }

/-- The options of a group whose options have these names. `expected` is the name of the group. -/
def group (expected : String) (names : List String) (v : Value) : Except Failure Entries :=
  match v with
  | .table _ _ entries => .ok entries
  | .scalar _ (.dateTime _) => .ok []
  | v =>
    match items? v with
    | some items => .ok (names.zip items)
    | none => mismatch ("struct " ++ expected) v

/-! ### Groups of options

Each group starts with the defaults of its options and takes in those that are given, in the order
in which they are given. -/

/-- Takes in an option of the section for a shared cycle. -/
def Shared.set (s : Shared) : String × Value → Except Failure Shared
  | ("pairs", v) => do return { s with pairs := ← list text v }
  | ("colors", v) => do return { s with palette := ← list text v }
  | ("orphan_color", v) => do return { s with strayColor := ← text v }
  | _ => .ok s

/-- Reads the section for a shared cycle. -/
def Shared.decode (v : Value) : Except Failure Shared := do
  let entries ← group "ConsecutivePairsConfig" ["pairs", "colors", "orphan_color"] v
  entries.foldlM Shared.set {}

/-- Takes in an option of an entry of the section for cycles of their own. -/
def Own.set (o : Own) : String × Value → Except Failure Own
  | ("pair", v) => do return { o with pair := ← text v }
  | ("colors", v) => do return { o with palette := ← list text v }
  | ("orphan_color", v) => do return { o with strayColor := ← text v }
  | _ => .ok o

/-- Reads an entry of the section for cycles of their own; it must name its pair. -/
def Own.decode (v : Value) : Except Failure Own := do
  let entries ← group "IndependentPairConfig" ["pair", "colors", "orphan_color"] v
  let own ← entries.foldlM Own.set { pair := "" }
  if (entries.lookup "pair").isSome then return own
  else throw { place := v.place, message := "missing field `pair`" }

/-- Takes in an option. -/
def set (c : Config) : String × Value → Except Failure Config
  | ("time_out", v) => do return { c with delay := ← number v }
  | ("force_unique_opening_color", v) => do return { c with avoidRepeat := ← truth v }
  | ("force_iteration_color_cycle", v) => do return { c with rotate := ← truth v }
  | ("color_mode", v) => do return { c with scope := ← cycleScope v }
  | ("consecutive", v) => do return { c with shared := ← Shared.decode v }
  | ("independent", v) => do return { c with own := ← list Own.decode v }
  | _ => .ok c

/-- Reads the options. -/
def decodeOptions (v : Value) : Except Failure Config := do
  let entries ← group "ColorizerConfig" ["time_out", "force_unique_opening_color",
    "force_iteration_color_cycle", "color_mode", "consecutive", "independent"] v
  entries.foldlM set {}

/-- Reads a configuration. -/
def decode (v : Value) : Except Failure Config := do
  let entries ← group "Config" ["colorizer"] v
  match entries.lookup "colorizer" with
  | some v => decodeOptions v
  | none => return {}

/-- Reads a configuration from its text. -/
def parse (text : String) : Except Failure Config := do
  decode (← Toml.parse text)

end BracketTint.Config
