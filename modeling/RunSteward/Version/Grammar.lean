import RunSteward.Text.Digit
import RunSteward.Version.Basic

/-!
# Reading versions

A version is written as two or three numerals with points between them, perhaps with the letter v in front, a prerelease
behind a hyphen and a build name behind a plus sign. A numeral has no leading zero; its digits behind the first may be
of any script. A text that is no version has none; a text that is one cannot be read if a numeral in it has too many
digits.
-/

namespace RunSteward.Version

/-- The numeral at the start of a text, and the text behind it. -/
def takeNumeral? : List Char → Option (Nat × List Char)
  | [] => none
  | c :: cs =>
    if c = '0' then some (0, cs)
    else if '1' ≤ c ∧ c ≤ '9' then
      (Text.numeral? (c :: cs.takeWhile Text.isDigit)).map fun n => (n, cs.dropWhile Text.isDigit)
    else none

/-- Characters of prerelease and build names. -/
def isNameChar (c : Char) : Bool :=
  c.isAlphanum || c = '.' || c = '-'

/-- The name behind a mark at the start of a text, and the text behind the name. Without the mark the name is empty;
after the mark it must not be. -/
def takeName? (mark : Char) : List Char → Option (List Char × List Char)
  | [] => some ([], [])
  | c :: cs =>
    if c = mark then
      let name := cs.takeWhile isNameChar
      if name.isEmpty then none else some (name, cs.dropWhile isNameChar)
    else some ([], c :: cs)

/-- The numeral behind a point at the start of a text, and the text behind it. -/
def takePointed? : List Char → Option (Nat × List Char)
  | '.' :: cs => takeNumeral? cs
  | _ => none

/-- The version that fills a text. -/
def ofChars? (s : List Char) : Option Version := do
  let s := match s with
    | 'v' :: cs => cs
    | cs => cs
  let (major, s) ← takeNumeral? s
  let (minor, s) ← takePointed? s
  let (patch, s) ← match s with
    | '.' :: cs => takeNumeral? cs
    | cs => some (0, cs)
  let (prerelease, s) ← takeName? '-' s
  let (_, s) ← takeName? '+' s
  if s.isEmpty then
    return { major := major, minor := minor, patch := patch, prerelease := String.ofList prerelease }
  else none

/-- The version that a text spells, blanks around it aside, however many digits its numerals have. -/
def spelled? (text : String) : Option Version :=
  ofChars? (Text.trimChars text.toList)

/-- The version that a text holds, blanks around it aside. -/
def read (text : String) : Except Fault (Option Version) :=
  match spelled? text with
  | none => .ok none
  | some v => if v.isWritable then .ok (some v) else .error .numeralTooLong

end RunSteward.Version
