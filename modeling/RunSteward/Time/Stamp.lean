import RunSteward.Time.Calendar

/-!
# Time stamps

A time stamp is a date, a time of day and, if it is aware, an offset from UTC. Its instant is what comparisons go by:
two stamps with different offsets may name the same instant. A stamp is written with six places of microseconds or none.
-/

namespace RunSteward

def microsPerDay : Nat := 86400000000

structure TimeOfDay where
  hour : Nat
  minute : Nat
  second : Nat
  micro : Nat
  hour_lt : hour < 24
  minute_lt : minute < 60
  second_lt : second < 60
  micro_lt : micro < 1000000
deriving DecidableEq, Repr

namespace TimeOfDay

def midnight : TimeOfDay :=
  ⟨0, 0, 0, 0, by decide, by decide, by decide, by decide⟩

/-- The time of day with the given parts, if they are in range. -/
def of? (hour minute second micro : Nat) : Option TimeOfDay :=
  if h : hour < 24 then
    if m : minute < 60 then
      if s : second < 60 then
        if u : micro < 1000000 then some ⟨hour, minute, second, micro, h, m, s, u⟩ else none
      else none
    else none
  else none

def micros (t : TimeOfDay) : Nat :=
  ((t.hour * 60 + t.minute) * 60 + t.second) * 1000000 + t.micro

end TimeOfDay

/-- An offset from UTC of less than a day, in microseconds. -/
structure Offset where
  micros : Int
  micros_lt : micros.natAbs < microsPerDay
deriving DecidableEq, Repr

namespace Offset

/-- The offset of UTC itself. -/
def utc : Offset :=
  ⟨0, by decide⟩

/-- The offset of the given size, if it is less than a day. -/
def of? (micros : Int) : Option Offset :=
  if h : micros.natAbs < microsPerDay then some ⟨micros, h⟩ else none

end Offset

/-- A time stamp; without an offset it is naive. -/
structure Stamp where
  date : Date
  time : TimeOfDay
  offset : Option Offset
deriving DecidableEq, Repr

namespace Stamp

instance : Inhabited Stamp := ⟨⟨.first, .midnight, some .utc⟩⟩

/-- A stamp with an offset: a naive one is taken to be in UTC. -/
def aware (s : Stamp) : Stamp :=
  { s with offset := some (s.offset.getD .utc) }

/-- The microseconds of the date and the time since the first day. -/
def localMicros (s : Stamp) : Int :=
  s.date.number * microsPerDay + s.time.micros

/-- The instant of a stamp: its microseconds at UTC. -/
def instant (s : Stamp) : Int :=
  s.localMicros - (s.offset.getD .utc).micros

/-- The instant from which POSIX seconds count. -/
def epoch : Int :=
  719163 * microsPerDay

/-- The microseconds since the beginning of 1970. -/
def posixMicros (s : Stamp) : Int :=
  s.instant - epoch

/-! ## Text -/

/-- A number with zeros in front up to the given width. -/
def padded (width n : Nat) : List Char :=
  let ds := Nat.toDigits 10 n
  List.replicate (width - ds.length) '0' ++ ds

/-- Hours, minutes and seconds, with six places if there are microseconds. -/
def clockText (hour minute second micro : Nat) : List Char :=
  padded 2 hour ++ ':' :: padded 2 minute ++ ':' :: padded 2 second
    ++ (if micro = 0 then [] else '.' :: padded 6 micro)

/-- An offset with its sign; seconds appear only if there are any. -/
def offsetText (o : Offset) : List Char :=
  let n := o.micros.natAbs
  let micro := n % 1000000
  let second := n / 1000000 % 60
  let minute := n / 60000000 % 60
  let hour := n / 3600000000
  let sign := if o.micros < 0 then '-' else '+'
  if micro = 0 ∧ second = 0 then sign :: (padded 2 hour ++ ':' :: padded 2 minute)
  else sign :: clockText hour minute second micro

def dateText (d : Date) : List Char :=
  padded 4 d.year ++ '-' :: padded 2 d.month ++ '-' :: padded 2 d.day

def text (s : Stamp) : String :=
  String.ofList (dateText s.date ++ 'T' :: clockText s.time.hour s.time.minute s.time.second s.time.micro
    ++ (match s.offset with | none => [] | some o => offsetText o))

/-- The day of a stamp as a file name has it: the year is not padded. -/
def dayName (s : Stamp) : String :=
  String.ofList (padded 1 s.date.year ++ '-' :: padded 2 s.date.month ++ '-' :: padded 2 s.date.day)

end Stamp

end RunSteward
