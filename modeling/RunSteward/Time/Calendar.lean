/-!
# The calendar

Dates of the Gregorian calendar from the year 1 to the year 9999, numbered by days from the first of them. A date can
also be given by its year of weeks, the week and the day of the week.
-/

namespace RunSteward

/-- Tells whether a year has a 29th of February. -/
def isLeapYear (year : Nat) : Bool :=
  year % 4 = 0 && (year % 100 != 0 || year % 400 = 0)

def daysInMonth (year month : Nat) : Nat :=
  if month = 2 then (if isLeapYear year then 29 else 28)
  else if month = 4 ∨ month = 6 ∨ month = 9 ∨ month = 11 then 30
  else 31

structure Date where
  year : Nat
  month : Nat
  day : Nat
  year_mem : 1 ≤ year ∧ year ≤ 9999
  month_mem : 1 ≤ month ∧ month ≤ 12
  day_mem : 1 ≤ day ∧ day ≤ daysInMonth year month
deriving DecidableEq, Repr

namespace Date

/-- The date of a year, a month and a day, if there is one. -/
def of? (year month day : Nat) : Option Date :=
  if hy : 1 ≤ year ∧ year ≤ 9999 then
    if hm : 1 ≤ month ∧ month ≤ 12 then
      if hd : 1 ≤ day ∧ day ≤ daysInMonth year month then some ⟨year, month, day, hy, hm, hd⟩
      else none
    else none
  else none

/-- The first of January of the year 1. -/
def first : Date :=
  ⟨1, 1, 1, by decide, by decide, by decide⟩

instance : Inhabited Date := ⟨first⟩

end Date

/-! ## Day numbers -/

def daysBeforeYear (year : Nat) : Nat :=
  let y := year - 1
  365 * y + y / 4 - y / 100 + y / 400

def daysBeforeMonth (year month : Nat) : Nat :=
  (List.range (month - 1)).foldl (fun days m => days + daysInMonth year (m + 1)) 0

def lastDayNumber : Nat := 3652059

namespace Date

/-- The number of a date, the first one being 1. -/
def number (d : Date) : Nat :=
  daysBeforeYear d.year + daysBeforeMonth d.year d.month + d.day

def yearOfNumber (n : Nat) : Nat :=
  let guess := (n * 400) / 146097 + 1
  if n ≤ daysBeforeYear guess then guess - 1
  else if daysBeforeYear (guess + 1) < n then guess + 1
  else guess

/-- The month of a day within its year, counted from 1. -/
def monthOfDay (year dayOfYear : Nat) : Nat :=
  ((List.range 12).filter fun m => daysBeforeMonth year (m + 1) < dayOfYear).length

def ofNumber? (n : Nat) : Option Date :=
  let year := yearOfNumber n
  let dayOfYear := n - daysBeforeYear year
  let month := monthOfDay year dayOfYear
  of? year month (dayOfYear - daysBeforeMonth year month)

/-! ## Years of weeks -/

/-- The day of the week of a day number, Monday being 0. -/
def weekday (n : Nat) : Nat :=
  (n + 6) % 7

/-- The number of the Monday of the week that holds the 4th of January. -/
def weekOneMonday (year : Nat) : Nat :=
  let fourth := daysBeforeYear year + 4
  fourth - weekday fourth

/-- The number of weeks in a year of weeks. -/
def weeksInYear (year : Nat) : Nat :=
  let w := weekday (daysBeforeYear year + 1)
  if w = 3 ∨ (w = 2 ∧ isLeapYear year) then 53 else 52

/-- The date of a day in a year of weeks; Monday is day 1. -/
def ofWeek? (year week day : Nat) : Option Date :=
  if 1 ≤ year ∧ year ≤ 9999 ∧ 1 ≤ week ∧ week ≤ weeksInYear year ∧ 1 ≤ day ∧ day ≤ 7 then
    ofNumber? (weekOneMonday year + 7 * (week - 1) + (day - 1))
  else none

end Date

end RunSteward
