import RunSteward.Failure
import RunSteward.Json.Basic
import RunSteward.Text.Digit

/-!
# Reading JSON

The reader accepts one value with white space around it. Besides the standard it knows the numbers `NaN`, `Infinity` and
`-Infinity`; a repeated name keeps its place and takes the last value. From left to right, the first thing that is wrong
decides: a text that is no JSON is told apart from one that cannot be read because an integer has too many digits or
values are nested too deep. The recursion is bounded by the length of the text.
-/

namespace RunSteward.Json

/-- What is wrong with a text. -/
inductive Defect where
  | malformed
  | fault (f : Fault)
deriving DecidableEq, Repr

/-- What was read, if the text is well-formed so far. -/
def orMalformed {α : Type} : Option α → Except Defect α
  | some a => .ok a
  | none => .error .malformed

/-- The four characters of white space between tokens. -/
def isGap (c : Char) : Bool :=
  c = ' ' || c = '\t' || c = '\n' || c = '\r'

def skipGap (s : List Char) : List Char :=
  s.dropWhile isGap

/-! ## Strings -/

/-- The value of a hexadecimal digit. -/
def hexValue? (c : Char) : Option Nat :=
  if '0' ≤ c ∧ c ≤ '9' then some (c.toNat - 48)
  else if 'a' ≤ c ∧ c ≤ 'f' then some (c.toNat - 87)
  else if 'A' ≤ c ∧ c ≤ 'F' then some (c.toNat - 55)
  else none

def hexUnit? (a b c d : Char) : Option Nat := do
  let a ← hexValue? a
  let b ← hexValue? b
  let c ← hexValue? c
  let d ← hexValue? d
  return ((a * 16 + b) * 16 + c) * 16 + d

/-- The character that a one-letter escape stands for. -/
def escaped? (c : Char) : Option Nat :=
  match c with
  | '"' => some 0x22
  | '\\' => some 0x5c
  | '/' => some 0x2f
  | 'b' => some 0x08
  | 'f' => some 0x0c
  | 'n' => some 0x0a
  | 'r' => some 0x0d
  | 't' => some 0x09
  | _ => none

/-- Code points and UTF-16 units up to the closing quote, and the text behind it. -/
def readUnits : List Char → Option (List Nat × List Char)
  | [] => none
  | '"' :: cs => some ([], cs)
  | '\\' :: 'u' :: a :: b :: c :: d :: cs => do
    let unit ← hexUnit? a b c d
    let (units, rest) ← readUnits cs
    return (unit :: units, rest)
  | '\\' :: e :: cs => do
    let unit ← escaped? e
    let (units, rest) ← readUnits cs
    return (unit :: units, rest)
  | c :: cs =>
    if c = '\\' || c.toNat < 0x20 then none
    else (readUnits cs).map fun p => (c.toNat :: p.1, p.2)

/-- The characters of code points and units; two halves of a surrogate pair make one character. -/
def joinUnits : List Nat → List Char
  | [] => []
  | [u] => [if 0xD800 ≤ u ∧ u < 0xE000 then '\uFFFD' else Char.ofNat u]
  | u :: v :: us =>
    if 0xD800 ≤ u ∧ u < 0xDC00 ∧ 0xDC00 ≤ v ∧ v < 0xE000 then
      Char.ofNat (0x10000 + (u - 0xD800) * 0x400 + (v - 0xDC00)) :: joinUnits us
    else (if 0xD800 ≤ u ∧ u < 0xE000 then '\uFFFD' else Char.ofNat u) :: joinUnits (v :: us)

/-- The string whose opening quote has been read, and the text behind it. -/
def readString (s : List Char) : Except Defect (String × List Char) :=
  (orMalformed (readUnits s)).map fun p => (String.ofList (joinUnits p.1), p.2)

/-! ## Numbers -/

def isAsciiDigit (c : Char) : Bool :=
  '0' ≤ c && c ≤ '9'

/-- The number that ASCII digits denote. -/
def digitsValue (ds : List Char) : Nat :=
  ds.foldl (fun n d => 10 * n + (d.toNat - 48)) 0

/-- The digits behind a point, if a digit follows it, and the rest. -/
def readFraction : List Char → List Char × List Char
  | '.' :: d :: cs =>
    if isAsciiDigit d then ((d :: cs).takeWhile isAsciiDigit, (d :: cs).dropWhile isAsciiDigit)
    else ([], '.' :: d :: cs)
  | cs => ([], cs)

/-- The exponent, if the mark is followed by an optional sign and a digit, and the rest. -/
def readExponent (s : List Char) : Option Int × List Char :=
  match s with
  | e :: cs =>
    if e = 'e' ∨ e = 'E' then
      let (negative, ds) := match cs with
        | '-' :: ds => (true, ds)
        | '+' :: ds => (false, ds)
        | ds => (false, ds)
      let digits := ds.takeWhile isAsciiDigit
      if digits.isEmpty then (none, s)
      else
        let n : Int := digitsValue digits
        (some (if negative then -n else n), ds.dropWhile isAsciiDigit)
    else (none, s)
  | [] => (none, [])

/-- The digits in front of a point, and the text behind them; no digit follows a leading zero. -/
def takeLead : List Char → Option (List Char × List Char)
  | '0' :: cs => some (['0'], cs)
  | cs =>
    let ds := cs.takeWhile isAsciiDigit
    if ds.isEmpty then none else some (ds, cs.dropWhile isAsciiDigit)

/-- The number at the start of a text, its sign already read. -/
def readNumber (negative : Bool) (s : List Char) : Except Defect (Number × List Char) := do
  let (ds, rest) ← orMalformed (takeLead s)
  let (fraction, rest) := readFraction rest
  let (exponent, rest) := readExponent rest
  if fraction.isEmpty ∧ exponent.isNone then
    if Text.digitLimit < ds.length then .error (.fault .numeralTooLong)
    else
      let n : Int := digitsValue ds
      return (.whole (if negative then -n else n), rest)
  else
    let shift : Int := exponent.getD 0 - fraction.length
    return (.real (.ofDecimal negative (digitsValue (ds ++ fraction)) shift), rest)

/-! ## Values -/

/-- A value that is written as a word, if the text starts with the word. -/
def readWord (word : String) (value : Json) (s : List Char) : Except Defect (Json × List Char) :=
  (orMalformed (word.toList.isPrefixOf? s)).map (value, ·)

mutual

/-- The value at the start of a text, and the text behind it, given how deep values may be nested in it. -/
def readValue : Nat → Nat → List Char → Except Defect (Json × List Char)
  | 0, _, _ => .error .malformed
  | fuel + 1, depth, s =>
    match s with
    | '"' :: cs => (readString cs).map fun p => (.string p.1, p.2)
    | '\x7b' :: cs =>
      match depth with
      | 0 => .error (.fault .nestedTooDeep)
      | depth + 1 =>
        match skipGap cs with
        | '\x7d' :: rest => .ok (.object [], rest)
        | rest => readMembers fuel depth [] rest
    | '[' :: cs =>
      match depth with
      | 0 => .error (.fault .nestedTooDeep)
      | depth + 1 =>
        match skipGap cs with
        | ']' :: rest => .ok (.array [], rest)
        | rest => readItems fuel depth [] rest
    | 'n' :: _ => readWord "null" .null s
    | 't' :: _ => readWord "true" (.bool true) s
    | 'f' :: _ => readWord "false" (.bool false) s
    | 'N' :: _ => readWord "NaN" (.number (.real .nan)) s
    | 'I' :: _ => readWord "Infinity" (.number (.real (.infinite false))) s
    | '-' :: 'I' :: cs => readWord "Infinity" (.number (.real (.infinite true))) ('I' :: cs)
    | '-' :: cs => (readNumber true cs).map fun p => (.number p.1, p.2)
    | cs => (readNumber false cs).map fun p => (.number p.1, p.2)

/-- The further items of an array, up to its closing bracket. -/
def readItems : Nat → Nat → List Json → List Char → Except Defect (Json × List Char)
  | 0, _, _, _ => .error .malformed
  | fuel + 1, depth, done, s => do
    let (item, rest) ← readValue fuel depth s
    match skipGap rest with
    | ']' :: rest => return (.array (item :: done).reverse, rest)
    | ',' :: rest => readItems fuel depth (item :: done) (skipGap rest)
    | _ => .error .malformed

/-- The further members of an object, up to its closing brace. -/
def readMembers : Nat → Nat → List (String × Json) → List Char → Except Defect (Json × List Char)
  | 0, _, _, _ => .error .malformed
  | fuel + 1, depth, done, s =>
    match s with
    | '"' :: cs => do
      let (name, rest) ← readString cs
      match skipGap rest with
      | ':' :: rest =>
        let (value, rest) ← readValue fuel depth (skipGap rest)
        let done := put done name value
        match skipGap rest with
        | '\x7d' :: rest => return (.object done, rest)
        | ',' :: rest => readMembers fuel depth done (skipGap rest)
        | _ => .error .malformed
      | _ => .error .malformed
    | _ => .error .malformed

end

/-- The value that a text holds, if it holds exactly one and nothing in it is nested deeper than the given number of
arrays and objects. -/
def read (depth : Nat) (text : String) : Except Fault (Option Json) :=
  let s := skipGap text.toList
  match readValue (2 * s.length + 1) depth s with
  | .ok (v, rest) => .ok (if (skipGap rest).isEmpty then some v else none)
  | .error .malformed => .ok none
  | .error (.fault f) => .error f

end RunSteward.Json
