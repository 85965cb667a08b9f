/-!
# TOML Values

The values of a TOML document. Numbers with a fraction and points in time are kept as they are
written. A table also knows how it came about, which decides what may still be added to it. Each
value knows where it stands, so that it can be shown if it cannot be used.
-/

namespace BracketTint.Toml

/-- A place in a text, given by the rest of the text from there on. -/
abbrev Place := List Char

/-- How a table came about. -/
inductive TableKind where
  /-- Written out between braces; nothing can be added. -/
  | inline
  /-- The document itself, or named by a header of its own. -/
  | header
  /-- Named only on the way to a table below it. -/
  | passing
  /-- Named on the way to a value by a dotted key. -/
  | dotted
deriving DecidableEq, Repr

/-- A value without parts. -/
inductive Scalar where
  | string (text : String)
  | integer (number : Int)
  | float (text : String)
  | boolean (truth : Bool)
  | dateTime (text : String)
deriving DecidableEq, Repr

/-- A value of a TOML document. A table stands where its header stands, or else where it was first
named. -/
inductive Value where
  | scalar (place : Place) (content : Scalar)
  | array (place : Place) (items : List Value)
  | table (place : Place) (kind : TableKind) (entries : List (String × Value))
  /-- The tables of the headers in double brackets with one name. -/
  | tables (place : Place) (items : List (Place × List (String × Value)))
deriving Inhabited, Repr

/-- The entries of a table, in the order in which they were named. -/
abbrev Entries := List (String × Value)

/-- Where a value stands. -/
def Value.place : Value → Place
  | scalar place _ | array place _ | table place _ _ | tables place _ => place

/-- What kind of value this is. -/
def Value.kindName : Value → String
  | scalar _ (.string _) => "string"
  | scalar _ (.integer _) => "integer"
  | scalar _ (.float _) => "float"
  | scalar _ (.boolean _) => "boolean"
  | scalar _ (.dateTime _) => "datetime"
  | array .. => "array"
  | table _ .inline _ => "inline table"
  | table .. => "table"
  | tables .. => "array of tables"

namespace Entries

/-- Puts a value in the place of the one with the same key. -/
def replace (entries : Entries) (key : String) (value : Value) : Entries :=
  entries.map fun e => if e.1 == key then (key, value) else e

/-- Takes the value with a key away. -/
def remove (entries : Entries) (key : String) : Entries := entries.filter fun e => e.1 != key

end Entries

end BracketTint.Toml
