import BracketTint.Toml.Failure

/-!
# The Characters of TOML

The small pieces of a TOML document: blanks, line ends, comments, keys that need no quotes, and the
four kinds of strings.
-/

namespace BracketTint.Toml

/-- A space or a tab. -/
def isBlankChar (c : Char) : Bool := c == ' ' || c == '\t'

/-- A character that can stand in a comment: a tab, or anything that is no ASCII control. -/
def isPlain (c : Char) : Bool := c == '\t' || (0x20 ≤ c.toNat && c.toNat != 0x7f)

/-- A digit of a hexadecimal number. -/
def isHexDigit (c : Char) : Bool :=
  c.isDigit || ('a' ≤ c && c ≤ 'f') || ('A' ≤ c && c ≤ 'F')

/-- The value of a digit of a number in any of the bases used here. -/
def digitValue (c : Char) : Nat :=
  if c.isDigit then c.toNat - '0'.toNat
  else if 'a' ≤ c then c.toNat - 'a'.toNat + 10
  else c.toNat - 'A'.toNat + 10

/-- The number that digits stand for in a base. -/
def ofDigits (base : Nat) (digits : List Char) : Nat :=
  digits.foldl (fun n c => n * base + digitValue c) 0

/-- The rest after spaces and tabs. -/
def skipBlanks (cs : List Char) : List Char := cs.dropWhile isBlankChar

/-- The rest after a line break. -/
def lineBreak? : List Char → Option (List Char)
  | '\n' :: rest => some rest
  | '\r' :: '\n' :: rest => some rest
  | _ => none

/-- The rest after a comment, if one starts here. -/
def skipComment : List Char → List Char
  | '#' :: rest => rest.dropWhile isPlain
  | cs => cs

/-- The rest after the end of a line: blanks and a comment may stand before it. -/
def lineEnd? (cs : List Char) : Option (List Char) :=
  match skipComment (skipBlanks cs) with
  | [] => some []
  | rest => lineBreak? rest

/-- The rest after blanks, line breaks and comments. -/
def skipGap (inComment : Bool) : List Char → List Char
  | [] => []
  | '\n' :: rest => skipGap false rest
  | '\r' :: '\n' :: rest => skipGap false rest
  | c :: rest =>
    if inComment then if isPlain c then skipGap true rest else c :: rest
    else if isBlankChar c then skipGap false rest
    else if c == '#' then skipGap true rest
    else c :: rest

/-! ### Strings -/

/-- The character that a letter after a backslash stands for. -/
def shortEscape? : Char → Option Char
  | 'b' => some '\x08'
  | 't' => some '\t'
  | 'n' => some '\n'
  | 'f' => some '\x0c'
  | 'r' => some '\r'
  | '"' => some '"'
  | '\\' => some '\\'
  | _ => none

/-- The character whose code point is given by hexadecimal digits. -/
def scalar? (digits : List Char) : Option Char :=
  let n := ofDigits 16 digits
  if digits.all isHexDigit && (n < 0xd800 || (0xdfff < n && n < 0x110000)) then some (Char.ofNat n)
  else none

/-- Reads a string in double quotes up to its end, from after the first quote on. -/
def basicString : Reader (List Char)
  | [] => none
  | '"' :: rest => some ([], rest)
  | '\\' :: 'u' :: a :: b :: c :: d :: rest => do
    let char ← scalar? [a, b, c, d]
    let (text, rest) ← basicString rest
    return (char :: text, rest)
  | '\\' :: 'U' :: a :: b :: c :: d :: e :: f :: g :: h :: rest => do
    let char ← scalar? [a, b, c, d, e, f, g, h]
    let (text, rest) ← basicString rest
    return (char :: text, rest)
  | '\\' :: letter :: rest => do
    let char ← shortEscape? letter
    let (text, rest) ← basicString rest
    return (char :: text, rest)
  | char :: rest =>
    if isPlain char && char != '\\' then do
      let (text, rest) ← basicString rest
      return (char :: text, rest)
    else none

/-- Reads a string in single quotes up to its end, from after the first quote on. -/
def literalString : Reader (List Char)
  | [] => none
  | '\'' :: rest => some ([], rest)
  | char :: rest =>
    if isPlain char then do
      let (text, rest) ← literalString rest
      return (char :: text, rest)
    else none

/-- Reads a string in three double quotes up to its end, from after the first quotes on. A backslash
at the end of a line hides all white space up to the next visible character; `inGap` tells that such
white space is being read. One or two quotes more can stand directly before the three that end the
string. -/
def basicBlock (inGap : Bool) : Attempt (List Char)
  | [] => stuck []
  | '"' :: '"' :: '"' :: '"' :: '"' :: rest => .ok (['"', '"'], rest)
  | '"' :: '"' :: '"' :: '"' :: rest => .ok (['"'], rest)
  | '"' :: '"' :: '"' :: rest => .ok ([], rest)
  | cs@('\\' :: 'u' :: a :: b :: c :: d :: rest) => do
    let char ← orStuck cs (scalar? [a, b, c, d])
    let (text, rest) ← basicBlock false rest
    return (char :: text, rest)
  | cs@('\\' :: 'U' :: a :: b :: c :: d :: e :: f :: g :: h :: rest) => do
    let char ← orStuck cs (scalar? [a, b, c, d, e, f, g, h])
    let (text, rest) ← basicBlock false rest
    return (char :: text, rest)
  | cs@('\\' :: letter :: rest) =>
    if (lineBreak? (skipBlanks (letter :: rest))).isSome then basicBlock true (letter :: rest)
    else do
      let char ← orStuck cs (shortEscape? letter)
      let (text, rest) ← basicBlock false rest
      return (char :: text, rest)
  | '\r' :: '\n' :: rest =>
    if inGap then basicBlock true rest
    else do
      let (text, rest) ← basicBlock false rest
      return ('\n' :: text, rest)
  | char :: rest =>
    if inGap && (isBlankChar char || char == '\n') then basicBlock true rest
    else if isPlain char && char != '\\' || char == '\n' then do
      let (text, rest) ← basicBlock false rest
      return (char :: text, rest)
    else stuck (char :: rest)

/-- Reads a string in three single quotes up to its end, from after the first quotes on. -/
def literalBlock : Attempt (List Char)
  | [] => stuck []
  | '\'' :: '\'' :: '\'' :: '\'' :: '\'' :: rest => .ok (['\'', '\''], rest)
  | '\'' :: '\'' :: '\'' :: '\'' :: rest => .ok (['\''], rest)
  | '\'' :: '\'' :: '\'' :: rest => .ok ([], rest)
  | '\r' :: '\n' :: rest => do
    let (text, rest) ← literalBlock rest
    return ('\n' :: text, rest)
  | char :: rest =>
    if isPlain char || char == '\n' then do
      let (text, rest) ← literalBlock rest
      return (char :: text, rest)
    else stuck (char :: rest)

/-- The rest after a line break, if there is one. -/
def skipLineBreak (cs : List Char) : List Char := (lineBreak? cs).getD cs

/-- Reads a string of any kind. -/
def string : Attempt String := fun cs => do
  let (text, rest) ← match cs with
    | '"' :: '"' :: '"' :: rest => basicBlock false (skipLineBreak rest)
    | '"' :: rest => orStuck cs (basicString rest)
    | '\'' :: '\'' :: '\'' :: rest => literalBlock (skipLineBreak rest)
    | '\'' :: rest => orStuck cs (literalString rest)
    | _ => stuck cs
  return (String.ofList text, rest)

/-! ### Keys -/

/-- A character of a key that needs no quotes. -/
def isKeyChar (c : Char) : Bool := c.isAlphanum || c == '-' || c == '_'

/-- Reads one part of a key. -/
def simpleKey : Reader String := fun cs =>
  match cs with
  | '"' :: rest => (basicString rest).map fun (text, rest) => (String.ofList text, rest)
  | '\'' :: rest => (literalString rest).map fun (text, rest) => (String.ofList text, rest)
  | _ =>
    match cs.takeWhile isKeyChar with
    | [] => none
    | text => some (String.ofList text, cs.dropWhile isKeyChar)

/-- Reads the parts of a key, with dots between them. `fuel` bounds their number. -/
def keyParts : Nat → Reader (List String)
  | 0, _ => none
  | fuel + 1, cs => do
    let (part, rest) ← simpleKey (skipBlanks cs)
    match skipBlanks rest with
    | '.' :: rest =>
      let (parts, rest) ← keyParts fuel rest
      return (part :: parts, rest)
    | rest => return ([part], rest)

/-- The number of levels that a key, or values inside each other, stay below. -/
def levelLimit : Nat := 80

/-- Reads a key. -/
def key : Reader (List String) := keyParts (levelLimit - 1)

end BracketTint.Toml
