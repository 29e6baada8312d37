import RunSteward.Config.Document
import RunSteward.Config.Toml.Text
import RunSteward.Time.Calendar

/-!
# Numbers and times in TOML

A number is decimal, with an optional fraction and exponent, or an integer in base 2, 8 or 16. Low lines may stand
between digits. A time is a date, a time of day or both, with an optional offset. The longest such form at the start of
a text is taken.
-/

namespace RunSteward.Toml

open Json (isAsciiDigit digitsValue hexValue?)

/-! ## Numbers -/

/-- The digits at the start of a text, with single low lines between them, and the text behind. -/
def takeDigits (ok : Char → Bool) : List Char → List Char × List Char
  | [] => ([], [])
  | [c] => if ok c then ([c], []) else ([], [c])
  | c :: '_' :: d :: cs =>
    if ok c then
      if ok d then
        let p := takeDigits ok (d :: cs)
        (c :: p.1, p.2)
      else ([c], '_' :: d :: cs)
    else ([], c :: '_' :: d :: cs)
  | c :: d :: cs =>
    if ok c then
      let p := takeDigits ok (d :: cs)
      (c :: p.1, p.2)
    else ([], c :: d :: cs)

def isDigitOf (base : Nat) (c : Char) : Bool :=
  (hexValue? c).any (· < base)

/-- An integer whose base is given by the letter behind a leading zero. -/
def readBased? : List Char → Option (Int × List Char)
  | '0' :: letter :: cs =>
    let base? : Option Nat :=
      if letter = 'x' then some 16 else if letter = 'b' then some 2
      else if letter = 'o' then some 8 else none
    base?.bind fun base =>
      let (ds, rest) := takeDigits (isDigitOf base) cs
      if ds.isEmpty then none
      else some (((ds.filterMap hexValue?).foldl (fun n d => base * n + d) 0 : Nat), rest)
  | _ => none

/-- The digits of a fraction behind a point, and the text behind them. -/
def takeFraction (s : List Char) : List Char × List Char :=
  match s with
  | '.' :: cs =>
    let (ds, rest) := takeDigits isAsciiDigit cs
    if ds.isEmpty then ([], s) else (ds, rest)
  | _ => ([], s)

def takeExponent (s : List Char) : Option Int × List Char :=
  match s with
  | e :: cs =>
    if e = 'e' ∨ e = 'E' then
      let (negative, ds) := match cs with
        | '-' :: ds => (true, ds)
        | '+' :: ds => (false, ds)
        | ds => (false, ds)
      let (digits, rest) := takeDigits isAsciiDigit ds
      if digits.isEmpty then (none, s)
      else
        let n : Int := digitsValue digits
        (some (if negative then -n else n), rest)
    else (none, s)
  | [] => (none, [])

/-- A decimal number whose sign has been read. -/
def readDecimal? (negative : Bool) (s : List Char) : Option (Document × List Char) :=
  let lead : Option (List Char × List Char) := match s with
    | '0' :: cs => some (['0'], cs)
    | cs =>
      let p := takeDigits isAsciiDigit cs
      if p.1.isEmpty then none else some p
  lead.map fun (ds, rest) =>
    let (fraction, rest) := takeFraction rest
    let (exponent, rest) := takeExponent rest
    if fraction.isEmpty ∧ exponent.isNone then
      let n : Int := digitsValue ds
      (.whole (if negative then -n else n), rest)
    else
      let shift : Int := exponent.getD 0 - fraction.length
      (.real (.ofDecimal negative (digitsValue (ds ++ fraction)) shift), rest)

/-- A decimal number with an optional sign, or one of the words for infinity and no number. -/
def readSigned? (s : List Char) : Option (Document × List Char) :=
  let (negative, body) := match s with
    | '-' :: cs => (true, cs)
    | '+' :: cs => (false, cs)
    | cs => (false, cs)
  match readDecimal? negative body with
  | some r => some r
  | none =>
    match "inf".toList.isPrefixOf? body with
    | some rest => some (.real (.infinite negative), rest)
    | none => ("nan".toList.isPrefixOf? body).map fun rest => (.real .nan, rest)

def readNumber? (s : List Char) : Option (Document × List Char) :=
  match readBased? s with
  | some (n, rest) => some (.whole n, rest)
  | none => readSigned? s

/-! ## Times -/

/-- The number that exactly so many digits denote, if it lies within bounds, and the text behind them. -/
def takeNumber? (count low high : Nat) (s : List Char) : Option (Nat × List Char) :=
  let ds := s.take count
  let n := digitsValue ds
  if ds.length = count ∧ ds.all isAsciiDigit ∧ low ≤ n ∧ n ≤ high then some (n, s.drop count) else none

/-- The text behind a character. -/
def after? (c : Char) : List Char → Option (List Char)
  | [] => none
  | d :: cs => if d = c then some cs else none

def skipTimeOfDay? (s : List Char) : Option (List Char) := do
  let (_, s) ← takeNumber? 2 0 23 s
  let s ← after? ':' s
  let (_, s) ← takeNumber? 2 0 59 s
  let s ← after? ':' s
  let (_, s) ← takeNumber? 2 0 59 s
  match s with
  | '.' :: d :: cs => if isAsciiDigit d then return cs.dropWhile isAsciiDigit else return s
  | _ => return s

def skipOffset (s : List Char) : List Char :=
  match s with
  | [] => []
  | c :: cs =>
    if c = 'Z' ∨ c = 'z' then cs
    else if c = '+' ∨ c = '-' then
      let rest? : Option (List Char) := do
        let (_, s) ← takeNumber? 2 0 23 cs
        let s ← after? ':' s
        let (_, s) ← takeNumber? 2 0 59 s
        return s
      rest?.getD s
    else s

/-- The text behind a time that follows a date, if there is one. -/
def skipTimePart (s : List Char) : List Char :=
  match s with
  | c :: cs =>
    if c = 'T' ∨ c = 't' ∨ c = ' ' then
      match skipTimeOfDay? cs with
      | some rest => skipOffset rest
      | none => s
    else s
  | [] => []

/-- Year, month and day at the start of a text, and the text behind them. -/
def takeDate? (s : List Char) : Option ((Nat × Nat × Nat) × List Char) := do
  let (year, s) ← takeNumber? 4 0 9999 s
  let s ← after? '-' s
  let (month, s) ← takeNumber? 2 1 12 s
  let s ← after? '-' s
  let (day, s) ← takeNumber? 2 1 31 s
  return ((year, month, day), s)

/-- The time or the number at the start of a text. A date that the calendar does not have is refused. -/
def readScalar? (s : List Char) : Option (Document × List Char) :=
  let written (rest : List Char) : Document :=
    .moment (String.ofList (s.take (s.length - rest.length)))
  match takeDate? s with
  | some ((year, month, day), rest) =>
    (Date.of? year month day).map fun _ => (written (skipTimePart rest), skipTimePart rest)
  | none =>
    match skipTimeOfDay? s with
    | some rest => some (written rest, rest)
    | none => readNumber? s

end RunSteward.Toml
