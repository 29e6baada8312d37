import RunSteward.Time.Stamp
import RunSteward.Json.Reader

/-!
# Reading time stamps

A stamp starts with a date, as year, month and day or as a day of a week, with hyphens or without. Any one character
separates it from the time, which may end early and may carry a fraction and an offset. The reader looks no further than
it must: a character zero counts as the end, and one stray ASCII character is passed over between the time and its
offset.
-/

namespace RunSteward.Stamp

open Json (isAsciiDigit digitsValue)

/-- The number of the first digits and the text behind them, if there are that many digits. -/
def takeDigits? (count : Nat) (s : List Char) : Option (Nat × List Char) :=
  let ds := s.take count
  if ds.length = count ∧ ds.all isAsciiDigit then some (digitsValue ds, s.drop count) else none

/-- The next character; a character zero stands for the end. -/
def peek (s : List Char) : Char :=
  s.headD '\x00'

/-! ## Dates -/

/-- The length of the date at the start of a text, before it is known to be one. -/
def dateLength? (s : List Char) : Option Nat :=
  let at? (i : Nat) : Char := peek (s.drop i)
  if s.length = 7 then some 7
  else if at? 4 = '-' then
    if at? 5 = 'W' then
      if 8 < s.length ∧ at? 8 = '-' then
        if s.length = 9 then none
        else if 10 < s.length ∧ isAsciiDigit (at? 10) then some 8
        else some 10
      else some 8
    else some 10
  else if at? 4 = 'W' then
    let pos := 7 + ((s.drop 7).takeWhile isAsciiDigit).length
    if pos < 9 then some pos
    else if pos % 2 = 0 then some 7
    else some 8
  else some 8

/-- A day of a week: the year and the letter have been read. -/
def readWeekDate? (year : Nat) (hyphens : Bool) (s : List Char) : Option Date := do
  let (week, rest) ← takeDigits? 2 s
  if rest.isEmpty then Date.ofWeek? year week 1
  else
    let rest ← if hyphens then (if peek rest = '-' then some (rest.drop 1) else none) else some rest
    let (day, _) ← takeDigits? 1 rest
    Date.ofWeek? year week day

/-- The date that fills a text. -/
def readDate? (s : List Char) : Option Date := do
  let (year, rest) ← takeDigits? 4 s
  let hyphens := peek rest = '-'
  let rest := if hyphens then rest.drop 1 else rest
  if peek rest = 'W' then readWeekDate? year hyphens (rest.drop 1)
  else
    let (month, rest) ← takeDigits? 2 rest
    let rest ← if hyphens then (if peek rest = '-' then some (rest.drop 1) else none) else some rest
    let (day, rest) ← takeDigits? 2 rest
    if rest.isEmpty then Date.of? year month day else none

/-! ## Times -/

/-- What was read of a clock: its parts, and whether the text went on behind them. -/
structure ClockReading where
  hour : Nat
  minute : Nat
  second : Nat
  micro : Nat
  wentOn : Bool

/-- The microseconds of a fraction that fills a text; digits past the sixth and all behind them are passed over. -/
def readFraction? (s : List Char) (after : List Char) : Option (Nat × Bool) := do
  let count := min s.length 6
  if count = 0 then none
  let (n, rest) ← takeDigits? count (s ++ after)
  let rest := rest.dropWhile isAsciiDigit
  return (n * Nat.pow 10 (6 - count), peek rest != '\x00')

/-- Reads hours, minutes and seconds, as many of them as there are, from the text before a border. The list `done` holds
the parts already read, the last one first. -/
def readClock? (colons : Bool) (after : List Char) : Nat → List Nat → List Char → Option ClockReading
  | 0, _, _ => none
  | parts + 1, done, s => do
    let (n, rest) ← takeDigits? 2 s
    let done := n :: done
    let part (i : Nat) : Nat := done.reverse.getD i 0
    let c := peek (rest ++ after)
    let colons := if done.length = 1 then c = ':' else colons
    let fraction (s : List Char) : Option ClockReading :=
      (readFraction? s after).map fun f => ⟨part 0, part 1, part 2, f.1, f.2⟩
    if rest.length ≤ 1 ∧ c.toNat < 0x80 then
      return ⟨part 0, part 1, part 2, 0, c != '\x00'⟩
    else if c = '.' ∨ c = ',' then fraction (rest.drop 1)
    else if colons ∧ c ≠ ':' then none
    else
      let next := if colons then rest.drop 1 else rest
      if parts = 0 then fraction next else readClock? colons after parts done next

/-- The offset that fills the text behind its sign. -/
def readOffset? (negative : Bool) (s : List Char) : Option Offset := do
  let r ← readClock? true [] 3 [] s
  if r.wentOn then none
  let seconds := (r.hour * 60 + r.minute) * 60 + r.second
  if seconds = 0 then return Offset.utc
  let size : Int := seconds * 1000000 + r.micro
  Offset.of? (if negative then -size else size)

/-- The time and the offset that fill a text. -/
def readTime? (s : List Char) : Option (TimeOfDay × Option Offset) := do
  let isBorder (c : Char) : Bool := c = '+' || c = '-' || c = 'Z'
  let before := s.takeWhile (!isBorder ·)
  let after := s.dropWhile (!isBorder ·)
  let r ← readClock? true after 3 [] before
  let time ← TimeOfDay.of? r.hour r.minute r.second r.micro
  match after with
  | [] => if r.wentOn then none else some (time, none)
  | 'Z' :: rest => if peek rest = '\x00' then some (time, some .utc) else none
  | sign :: rest => (readOffset? (sign = '-') rest).map fun o => (time, some o)

/-! ## Stamps -/

/-- The stamp that a text holds. A date alone stands for its midnight. -/
def read? (text : String) : Option Stamp := do
  let s := text.toList
  if s.length < 7 then none
  let size ← dateLength? s
  let date ← readDate? (s.take size)
  if s.length ≤ size then return ⟨date, .midnight, none⟩
  let (time, offset) ← readTime? (s.drop (size + 1))
  return ⟨date, time, offset⟩

end RunSteward.Stamp
