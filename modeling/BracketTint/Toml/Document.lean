import BracketTint.Toml.Number

/-!
# TOML Documents

A document is a list of statements, one a line: headers of tables and keys with their values. Each
is put in its place before the next one is read, since what a header or a key may name depends on
what came before it. A name is defined once. A table that was only passed by on the way to another
one may still get a header of its own, and a table that grows by dotted keys may not.
-/

namespace BracketTint.Toml

/-! ### Names in messages -/

/-- A part of a key as it can be written. -/
def keyText (part : String) : String :=
  if !part.isEmpty && part.toList.all isKeyChar then part else "\"" ++ part ++ "\""

/-- A key as it can be written. -/
def pathText (parts : List String) : String := ".".intercalate (parts.map keyText)

/-- Tells that a name is defined already. -/
def duplicate (name : String) : String := "duplicate key `" ++ name ++ "`"

/-- Tells where a name is defined already. -/
def inTable : List String → String
  | [] => " in document root"
  | path => " in table `" ++ pathText path ++ "`"

/-! ### Putting tables together -/

namespace Entries

/-- Changes the table at the end of a path by `change`. Tables on the way are made if they are
missing; the path of a dotted key makes dotted tables and enters no table with a header. Where it
meets tables in double brackets it goes on in the last one. `passed` is the path so far, and `place`
is where the path is written. -/
def descend (isDotted : Bool) (place : Place) (change : TableKind → Entries → Except String Entries)
    (passed : List String) : List String → TableKind → Entries → Except String Entries
  | [], kind, entries => change kind entries
  | key :: path, _, entries =>
    let passed := passed ++ [key]
    match entries.lookup key with
    | none => do
      let kind : TableKind := if isDotted then .dotted else .passing
      let inner ← descend isDotted place change passed path kind []
      return entries ++ [(key, .table place kind inner)]
    | some (.tables first items) =>
      match items.getLast? with
      | none => .error (duplicate key)
      | some (last, inner) => do
        let inner ← descend isDotted place change passed path .header inner
        return entries.replace key (.tables first (items.dropLast ++ [(last, inner)]))
    | some v =>
      match v with
      | .table first kind inner => do
        if isDotted && (kind == .header || kind == .inline) then throw (duplicate key)
        if kind == .inline then throw (wrongType passed v)
        let inner ← descend isDotted place change passed path kind inner
        return entries.replace key (.table first kind inner)
      | _ => .error (wrongType passed v)
where
  /-- Tells that a path leads through a value that is no table. -/
  wrongType (path : List String) (v : Value) : String :=
    "dotted key `" ++ pathText path ++ "` attempted to extend non-table type (" ++ v.kindName ++ ")"

/-- Adds a value under a dotted key. `owner` tells in which table, for a message. -/
def insert (owner : String) (place : Place) (path : List String) (key : String) (value : Value)
    (kind : TableKind) (entries : Entries) : Except String Entries :=
  descend true place (fun kind entries =>
    if (kind == .dotted) == path.isEmpty then .error (duplicate key)
    else if (entries.lookup key).isSome then .error (duplicate key ++ owner)
    else .ok (entries ++ [(key, value)])) [] path kind entries

/-- Adds a table with a header. -/
def insertTable (place : Place) (path : List String) (key : String) (entries : Entries) :
    Except String Entries :=
  match entries.lookup key with
  | none => .ok (entries ++ [(key, .table place .header [])])
  | some (.table _ .passing inner) =>
    .ok (entries.remove key ++ [(key, .table place .header inner)])
  | some _ => .error (duplicate (keyText key) ++ inTable path)

/-- Adds a table with a header in double brackets. -/
def appendTable (place : Place) (path : List String) (key : String) (entries : Entries) :
    Except String Entries :=
  match entries.lookup key with
  | none => .ok (entries ++ [(key, .tables place [(place, [])])])
  | some (.tables first items) =>
    .ok (entries.replace key (.tables first (items ++ [(place, [])])))
  | some _ => .error (duplicate (keyText key) ++ inTable path)

end Entries

/-- The table at a place, of keys with their values, in the order in which they are written. A key
has its parts before the last one, and the last one. -/
def inlineTable (place : Place) (pairs : List ((List String × String) × Value)) :
    Except String Value := do
  let entries ← pairs.foldlM (fun entries ((path, key), value) =>
    Entries.insert "" place path key value .inline entries) []
  return .table place .inline entries

/-! ### Values -/

/-- Reads a key, and splits off its last part. -/
def splitKey : Attempt (List String × String) := fun cs => do
  let (parts, rest) ← orStuck cs (key cs)
  match parts.getLast? with
  | some last => return ((parts.dropLast, last), rest)
  | none => stuck cs

/-- Reads the items of an array up to its end, given how to read one. `fuel` bounds their number. -/
def arrayItems (item : Attempt Value) : Nat → Attempt (List Value)
  | 0, cs => stuck cs
  | fuel + 1, cs =>
    match skipGap false cs with
    | ']' :: rest => .ok ([], rest)
    | cs => do
      let (value, rest) ← item cs
      match skipGap false rest with
      | ']' :: rest => return ([value], rest)
      | ',' :: rest =>
        let (values, rest) ← arrayItems item fuel rest
        return (value :: values, rest)
      | rest => stuck rest

/-- Reads a key and its value, given how to read a value. -/
def keyValue (item : Attempt Value) : Attempt ((List String × String) × Value) := fun cs => do
  let (parts, rest) ← splitKey cs
  let rest ← orStuck rest (after? '=' rest)
  let (value, rest) ← item (skipBlanks rest)
  return ((parts, value), rest)

/-- Reads the keys and values of an inline table up to its end, given how to read a value. `fuel`
bounds their number. -/
def tablePairs (item : Attempt Value) : Nat → Attempt (List ((List String × String) × Value))
  | 0, cs => stuck cs
  | fuel + 1, cs => do
    let (pair, rest) ← keyValue item cs
    match skipBlanks rest with
    | '\x7d' :: rest => return ([pair], rest)
    | ',' :: rest =>
      let (pairs, rest) ← tablePairs item fuel rest
      return (pair :: pairs, rest)
    | rest => stuck rest

/-- Reads a value that is no array and no table. -/
def scalarValue : Attempt Scalar := fun cs =>
  match cs with
  | '"' :: _ => (string cs).map fun (text, rest) => (.string text, rest)
  | '\'' :: _ => (string cs).map fun (text, rest) => (.string text, rest)
  | 't' :: 'r' :: 'u' :: 'e' :: rest => .ok (.boolean true, rest)
  | 'f' :: 'a' :: 'l' :: 's' :: 'e' :: rest => .ok (.boolean false, rest)
  | _ => orStuck cs (number cs)

/-- Reads a value. `levels` bounds how deep values stand inside each other. -/
def value : Nat → Attempt Value
  | 0, '[' :: cs => stuck ('[' :: cs)
  | levels + 1, '[' :: cs => do
    let (items, rest) ← arrayItems (value levels) (cs.length + 1) cs
    return (.array ('[' :: cs) items, rest)
  | 0, '\x7b' :: cs => stuck ('\x7b' :: cs)
  | levels + 1, '\x7b' :: cs =>
    let place := '\x7b' :: cs
    match skipBlanks cs with
    | '\x7d' :: rest => .ok (.table place .inline [], rest)
    | _ => do
      let (pairs, rest) ← tablePairs (value levels) cs.length cs
      match inlineTable place pairs with
      | .ok table => return (table, rest)
      | .error message => throw { place, message }
  | _, cs => (scalarValue cs).map fun (content, rest) => (.scalar cs content, rest)

/-! ### Statements -/

/-- A line of a document. A key has its parts before the last one, and the last one. -/
inductive Statement where
  /-- A header of a table. -/
  | table (key : List String × String)
  /-- A header in double brackets. -/
  | tables (key : List String × String)
  | keyValue (key : List String × String) (value : Value)
deriving Repr

/-- Reads a statement with the end of its line. -/
def statement : Attempt Statement := fun cs =>
  match cs with
  | '[' :: '[' :: cs => do
    let (key, rest) ← splitKey cs
    let rest ← orStuck rest do lineEnd? (← after? ']' (← after? ']' rest))
    return (.tables key, rest)
  | '[' :: cs => do
    let (key, rest) ← splitKey cs
    let rest ← orStuck rest do lineEnd? (← after? ']' rest)
    return (.table key, rest)
  | cs => do
    let ((key, v), rest) ← keyValue (value (levelLimit - 1)) cs
    return (.keyValue key v, ← orStuck rest (lineEnd? rest))

/-- The tables named so far, and the path of the last header. -/
structure Assembly where
  root : Entries := []
  path : List String := []

/-- Takes in a statement from a place. -/
def Assembly.add (a : Assembly) (place : Place) : Statement → Except String Assembly
  | .table (path, key) => do
    let change := fun (_ : TableKind) entries => Entries.insertTable place path key entries
    let root ← a.root.descend false place change [] path .header
    return { root, path := path ++ [key] }
  | .tables (path, key) => do
    let change := fun (_ : TableKind) entries => Entries.appendTable place path key entries
    let root ← a.root.descend false place change [] path .header
    return { root, path := path ++ [key] }
  | .keyValue (path, key) value => do
    let change := Entries.insert (inTable a.path) place path key value
    let root ← a.root.descend false place change [] a.path .header
    return { a with root }

/-- Reads statements and takes them in, up to the end of a text. `fuel` bounds their number. -/
def Assembly.read : Nat → Assembly → List Char → Except Failure Assembly
  | 0, _, cs => stuck cs
  | fuel + 1, a, cs =>
    match skipBlanks cs with
    | [] => .ok a
    | '#' :: rest => do
      let cs := '#' :: rest
      Assembly.read fuel a (← orStuck cs (lineEnd? cs))
    | cs =>
      match lineBreak? cs with
      | some rest => Assembly.read fuel a rest
      | none => do
        let (found, rest) ← statement cs
        match a.add cs found with
        | .ok a => Assembly.read fuel a rest
        | .error message => throw { place := cs, message }

/-- The text after a byte order mark. -/
def skipByteOrderMark : List Char → List Char
  | '\ufeff' :: rest => rest
  | cs => cs

/-- Reads a document. -/
def parse (text : String) : Except Failure Value := do
  let cs := skipByteOrderMark text.toList
  let a ← Assembly.read (cs.length + 1) {} cs
  return .table text.toList .header a.root

end BracketTint.Toml
