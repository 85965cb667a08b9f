import BracketTint.Toml.Text
import BracketTint.Word

/-!
# Numbers and Times in TOML

Integers are 64-bit signed numbers, in base ten with a sign, or in another base with a mark in
front. Digits may be parted by single underscores. A number with a fraction or an exponent must not
round to positive infinity as a double. Dates and times have their parts in range, and a day exists
in its month.
-/

namespace BracketTint.Toml

/-! ### Digits -/

/-- Splits off further digits of a number, each of which may follow an underscore. -/
def moreDigits (isDigit : Char → Bool) : List Char → List Char × List Char
  | [] => ([], [])
  | '_' :: d :: rest =>
    if isDigit d then
      let (digits, rest) := moreDigits isDigit rest
      (d :: digits, rest)
    else ([], '_' :: d :: rest)
  | d :: rest =>
    if isDigit d then
      let (digits, rest) := moreDigits isDigit rest
      (d :: digits, rest)
    else ([], d :: rest)

/-- Reads digits, at least one. -/
def digits (isDigit : Char → Bool) : Reader (List Char)
  | [] => none
  | d :: rest =>
    if isDigit d then
      let (more, rest) := moreDigits isDigit rest
      some (d :: more, rest)
    else none

/-- Whether a minus sign stands in front of a number, and the rest after the sign. -/
def sign : List Char → Bool × List Char
  | '+' :: rest => (false, rest)
  | '-' :: rest => (true, rest)
  | cs => (false, cs)

/-- Reads the digits of a number in base ten. A leading zero stands alone. -/
def decimalDigits : Reader (List Char)
  | '0' :: rest => some (['0'], rest)
  | cs => digits Char.isDigit cs

/-! ### Integers -/

/-- An integer, if it has 64 bits with its sign. -/
def int64? (n : Int) : Option Scalar :=
  if -Word.half ≤ n ∧ n < Word.half then some (.integer n) else none

/-- Reads an integer in a base. -/
def integerInBase (base : Nat) (isDigit : Char → Bool) : Reader Scalar := fun cs => do
  let (found, rest) ← digits isDigit cs
  return (← int64? (ofDigits base found), rest)

/-- Reads an integer. -/
def integer : Reader Scalar := fun cs =>
  match cs with
  | '0' :: 'x' :: rest => integerInBase 16 isHexDigit rest
  | '0' :: 'o' :: rest => integerInBase 8 (fun c => '0' ≤ c && c ≤ '7') rest
  | '0' :: 'b' :: rest => integerInBase 2 (fun c => c == '0' || c == '1') rest
  | _ => do
    let (negative, rest) := sign cs
    let (found, rest) ← decimalDigits rest
    let n : Int := ofDigits 10 found
    return (← int64? (if negative then -n else n), rest)

/-! ### Numbers with a fraction or an exponent -/

/-- The least number that rounds to infinity as a double: half a step above the largest double. -/
def doubleLimit : Nat := Nat.pow 2 1024 - Nat.pow 2 970

/-- Whether `m * 10 ^ e` is below the numbers that round to infinity. The number of digits decides,
unless it is close to that of the limit, which has 309. -/
def isFinite (m : Nat) (e : Int) : Bool :=
  let magnitude := (Nat.toDigits 10 m).length + e
  if m == 0 || magnitude < 309 then true
  else if 309 < magnitude then false
  else if 0 ≤ e then decide (m * Nat.pow 10 e.toNat < doubleLimit)
  else decide (m < doubleLimit * Nat.pow 10 (-e).toNat)

/-- Reads an exponent. -/
def exponent : Reader Int
  | c :: cs =>
    if c == 'e' || c == 'E' then do
      let (negative, rest) := sign cs
      let (found, rest) ← digits Char.isDigit rest
      let n : Int := ofDigits 10 found
      return (if negative then -n else n, rest)
    else none
  | [] => none

/-- Reads a fraction. -/
def fraction : Reader (List Char)
  | '.' :: cs => digits Char.isDigit cs
  | _ => none

/-- Reads the fraction and the exponent of a number, of which one may be missing. -/
def fractionAndExponent : Reader (List Char × Int) := fun cs =>
  match fraction cs with
  | some (found, rest) =>
    match exponent rest with
    | some (e, rest) => some ((found, e), rest)
    | none => some ((found, 0), rest)
  | none => (exponent cs).map fun (e, rest) => (([], e), rest)

/-- The part of a text that was read, given the rest. -/
def consumed (cs rest : List Char) : String := String.ofList (cs.take (cs.length - rest.length))

/-- Reads infinity or an undefined number, after the sign. -/
def special : List Char → Option (List Char)
  | 'i' :: 'n' :: 'f' :: rest => some rest
  | 'n' :: 'a' :: 'n' :: rest => some rest
  | _ => none

/-- Reads a number with a fraction or an exponent. -/
def float : Reader Scalar := fun cs =>
  let (negative, unsigned) := sign cs
  match special unsigned with
  | some rest => some (.float (consumed cs rest), rest)
  | none => do
    let (whole, rest) ← decimalDigits unsigned
    let ((part, e), rest) ← fractionAndExponent rest
    if negative || isFinite (ofDigits 10 (whole ++ part)) (e - part.length) then
      return (.float (consumed cs rest), rest)
    else none

/-! ### Dates and times -/

/-- Reads a number of exactly two digits in a range. -/
def twoDigits (low high : Nat) : Reader Nat
  | a :: b :: rest =>
    let n := ofDigits 10 [a, b]
    if a.isDigit && b.isDigit && low ≤ n && n ≤ high then some (n, rest) else none
  | _ => none

/-- Reads a year. -/
def year : Reader Nat
  | a :: b :: c :: d :: rest =>
    if [a, b, c, d].all Char.isDigit then some (ofDigits 10 [a, b, c, d], rest) else none
  | _ => none

/-- The rest after a character. -/
def after? (c : Char) : List Char → Option (List Char)
  | d :: rest => if c == d then some rest else none
  | [] => none

/-- The number of days of a month. -/
def daysIn (year month : Nat) : Nat :=
  if month == 2 then
    if year % 4 == 0 && (year % 100 != 0 || year % 400 == 0) then 29 else 28
  else if [4, 6, 9, 11].contains month then 30
  else 31

/-- The rest after a date. -/
def date? (cs : List Char) : Option (List Char) := do
  let (y, rest) ← year cs
  let (m, rest) ← twoDigits 1 12 (← after? '-' rest)
  let (_, rest) ← twoDigits 1 (daysIn y m) (← after? '-' rest)
  return rest

/-- The rest after a fraction of a second, if there is one. -/
def skipSecondFraction : List Char → List Char
  | '.' :: d :: rest => if d.isDigit then rest.dropWhile Char.isDigit else '.' :: d :: rest
  | cs => cs

/-- The rest after a time of day. -/
def time? (cs : List Char) : Option (List Char) := do
  let (_, rest) ← twoDigits 0 23 cs
  let (_, rest) ← twoDigits 0 59 (← after? ':' rest)
  let (_, rest) ← twoDigits 0 60 (← after? ':' rest)
  return skipSecondFraction rest

/-- The rest after the distance from universal time. -/
def offset? : List Char → Option (List Char)
  | c :: rest =>
    if c == 'Z' || c == 'z' then some rest
    else if c == '+' || c == '-' then do
      let (_, rest) ← twoDigits 0 23 rest
      let (_, rest) ← twoDigits 0 59 (← after? ':' rest)
      return rest
    else none
  | [] => none

/-- The rest after a time that follows a date, with or without an offset. -/
def timeOfDate? : List Char → Option (List Char)
  | c :: rest =>
    if c == 'T' || c == 't' || c == ' ' then do
      let rest ← time? rest
      return (offset? rest).getD rest
    else none
  | [] => none

/-- Reads a date, a time of day, or both. -/
def dateTime : Reader Scalar := fun cs =>
  let rest? := match date? cs with
    | some rest => some ((timeOfDate? rest).getD rest)
    | none => time? cs
  rest?.map fun rest => (.dateTime (consumed cs rest), rest)

/-- Reads a number or a time. -/
def number : Reader Scalar := fun cs =>
  match dateTime cs with
  | some read => some read
  | none =>
    match float cs with
    | some read => some read
    | none => integer cs

end BracketTint.Toml
