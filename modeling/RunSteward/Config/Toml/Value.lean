import RunSteward.Config.Toml.Scalar

/-!
# Values and keys in TOML

A key is one or more parts with points between them. A value is a text, a flag, a time, a number, an array over any
number of lines or an inline table on one line. The recursion is bounded by the length of the text.
-/

namespace RunSteward.Toml

/-! ## Keys -/

abbrev Path := List String

def isBareChar (c : Char) : Bool :=
  c.isAlphanum || c = '-' || c = '_'

/-- One part of a key, and the text behind it and behind the blanks that follow. -/
def readKeyPart? (s : List Char) : Option (String × List Char) :=
  match s with
  | [] => none
  | c :: _ =>
    let part? := if isBareChar c then some (s.takeWhile isBareChar, s.dropWhile isBareChar)
      else readLineText? s
    part?.map fun p => (String.ofList p.1, skipGap p.2)

/-- A key, and the text behind it and behind the blanks that follow. -/
def readKey? : Nat → List Char → Option (Path × List Char)
  | 0, _ => none
  | fuel + 1, s => do
    let (part, rest) ← readKeyPart? s
    match rest with
    | '.' :: rest =>
      let (parts, rest) ← readKey? fuel (skipGap rest)
      return (part :: parts, rest)
    | _ => return ([part], rest)

/-! ## Comments -/

/-- The text behind a comment, if one starts here; the line feed stays. -/
def skipComment? (s : List Char) : Option (List Char) :=
  match s with
  | '#' :: cs =>
    if (cs.takeWhile (· != '\n')).any isControl then none else some (cs.dropWhile (· != '\n'))
  | _ => some s

def skipArrayGap? : Nat → List Char → Option (List Char)
  | 0, _ => none
  | fuel + 1, s =>
    match s.dropWhile isGapOrLine with
    | '#' :: cs => do
      let rest ← skipComment? ('#' :: cs)
      skipArrayGap? fuel rest
    | rest => some rest

/-! ## Inline tables -/

/-- Tells whether one path leads to or into what the other one leads to. -/
def covers (p q : Path) : Bool :=
  p.isPrefixOf q

/-- Tells whether a value is closed: lists and inline tables take no later additions. -/
def isClosed : Document → Bool
  | .list _ => true
  | .table _ => true
  | _ => false

/-- An inline table with one more entry; the paths of its closed values are carried along. -/
def addInline? (closed : List Path) (members : Document.Members) (key : Path) (value : Document) :
    Option Document.Members :=
  if closed.any fun p => covers p key then none
  else
    let stem := key.getLastD ""
    Document.updateTables (fun ms => if (Document.find? ms stem).isSome then none
      else some (Document.put ms stem value)) key.dropLast members

/-! ## Values -/

mutual

/-- The value at the start of a text, and the text behind it. -/
def readValue? : Nat → List Char → Option (Document × List Char)
  | 0, _ => none
  | fuel + 1, s =>
    match s with
    | '"' :: _ => (readText? s).map fun p => (.text (String.ofList p.1), p.2)
    | '\'' :: _ => (readText? s).map fun p => (.text (String.ofList p.1), p.2)
    | 't' :: _ => ("true".toList.isPrefixOf? s).map fun r => (.flag true, r)
    | 'f' :: _ => ("false".toList.isPrefixOf? s).map fun r => (.flag false, r)
    | '[' :: cs => do
      match ← skipArrayGap? (cs.length + 1) cs with
      | ']' :: rest => return (.list [], rest)
      | rest => readItems? fuel [] rest
    | '\x7b' :: cs =>
      match skipGap cs with
      | '\x7d' :: rest => some (.table [], rest)
      | rest => readEntries? fuel [] [] rest
    | _ => readScalar? s

/-- The further items of an array, up to its closing bracket; a comma may stand before it. -/
def readItems? : Nat → List Document → List Char → Option (Document × List Char)
  | 0, _, _ => none
  | fuel + 1, done, s => do
    let (item, rest) ← readValue? fuel s
    match ← skipArrayGap? (rest.length + 1) rest with
    | ']' :: rest => return (.list (item :: done).reverse, rest)
    | ',' :: rest =>
      match ← skipArrayGap? (rest.length + 1) rest with
      | ']' :: rest => return (.list (item :: done).reverse, rest)
      | rest => readItems? fuel (item :: done) rest
    | _ => none

/-- The further entries of an inline table, up to its closing brace. -/
def readEntries? : Nat → List Path → Document.Members → List Char → Option (Document × List Char)
  | 0, _, _, _ => none
  | fuel + 1, closed, members, s => do
    let (key, rest) ← readKey? (s.length + 1) s
    let rest ← after? '=' rest
    let (value, rest) ← readValue? fuel (skipGap rest)
    let members ← addInline? closed members key value
    match skipGap rest with
    | '\x7d' :: rest => return (.table members, rest)
    | ',' :: rest =>
      let closed := if isClosed value then key :: closed else closed
      readEntries? fuel closed members (skipGap rest)
    | _ => none

end

end RunSteward.Toml
