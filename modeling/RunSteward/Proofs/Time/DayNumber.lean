import Mathlib.Data.Nat.Init
import Mathlib.Order.Monotone.Basic
import RunSteward.Time.Calendar

/-!
# Day numbers

The days of the calendar are numbered without a gap from its first day to its last one (`exists_number_iff`). Years and
months follow each other in the same way: the days before the next one are the days before this one and its own
(`daysBeforeYear_succ`, `daysBeforeMonth_succ`), so every number falls into one of them (`exists_step`).
-/

namespace RunSteward

/-- What climbs from below a number to that number at least passes it in one of its steps. -/
theorem exists_step {f : Nat → Nat} {a b n : Nat} (ha : f a < n) (hb : n ≤ f b) (hab : a ≤ b) :
    ∃ k, a ≤ k ∧ k < b ∧ f k < n ∧ n ≤ f (k + 1) := by
  induction b, hab using Nat.le_induction with
  | base => omega
  | succ b hab ih =>
    by_cases h : n ≤ f b
    · obtain ⟨k, hak, hkb, hstep⟩ := ih h
      exact ⟨k, hak, by omega, hstep⟩
    · exact ⟨b, hab, by omega, by omega, hb⟩

def daysInYear (year : Nat) : Nat :=
  if isLeapYear year then 366 else 365

/-! ## Years -/

theorem isLeapYear_iff {year : Nat} : isLeapYear year = true ↔ year % 4 = 0 ∧ (year % 100 ≠ 0 ∨ year % 400 = 0) := by
  simp [isLeapYear]

theorem daysBeforeYear_succ {year : Nat} (h : 1 ≤ year) :
    daysBeforeYear (year + 1) = daysBeforeYear year + daysInYear year := by
  obtain ⟨y, rfl⟩ := Nat.exists_eq_add_of_le' h
  have hcenturies : y / 100 ≤ y / 4 := Nat.div_le_div_left (by decide) (by decide)
  have hcentury : 100 ∣ y + 1 → 4 ∣ y + 1 := Nat.dvd_trans (by decide)
  have hcycle : 400 ∣ y + 1 → 100 ∣ y + 1 := Nat.dvd_trans (by decide)
  simp only [daysBeforeYear, daysInYear, isLeapYear_iff, Nat.add_sub_cancel, Nat.succ_div, ← Nat.dvd_iff_mod_eq_zero,
    ne_eq]
  generalize y / 4 = fours at hcenturies ⊢
  generalize y / 100 = centuries at hcenturies ⊢
  by_cases hfour : 4 ∣ y + 1
  · by_cases hhundred : 100 ∣ y + 1
    · by_cases hfourHundred : 400 ∣ y + 1 <;> simp [hfour, hhundred, hfourHundred] <;> omega
    · simp [hfour, hhundred, mt hcycle hhundred]
      omega
  · simp [hfour, mt hcentury hfour, mt hcycle (mt hcentury hfour)]
    omega

theorem daysBeforeYear_le {year later : Nat} (h : 1 ≤ year) (hle : year ≤ later) :
    daysBeforeYear year ≤ daysBeforeYear later := by
  refine monotoneOn_nat_Ici_of_le_succ (fun y hy => ?_) h (Nat.le_trans h hle) hle
  rw [daysBeforeYear_succ hy]
  exact Nat.le_add_right _ _

theorem daysBeforeYear_end : daysBeforeYear 10000 = lastDayNumber := by
  decide

/-! ## Months -/

theorem daysBeforeMonth_succ (year : Nat) {month : Nat} (h : 1 ≤ month) :
    daysBeforeMonth year (month + 1) = daysBeforeMonth year month + daysInMonth year month := by
  obtain ⟨m, rfl⟩ := Nat.exists_eq_add_of_le' h
  simp [daysBeforeMonth, List.range_succ]

theorem daysBeforeMonth_le {year month later : Nat} (h : 1 ≤ month) (hle : month ≤ later) :
    daysBeforeMonth year month ≤ daysBeforeMonth year later := by
  refine monotoneOn_nat_Ici_of_le_succ (fun m hm => ?_) h (Nat.le_trans h hle) hle
  rw [daysBeforeMonth_succ year hm]
  exact Nat.le_add_right _ _

theorem daysBeforeMonth_end (year : Nat) : daysBeforeMonth year 13 = daysInYear year := by
  cases hleap : isLeapYear year with
  | true => simp [daysBeforeMonth, List.range_succ, daysInMonth, daysInYear, hleap]
  | false => simp [daysBeforeMonth, List.range_succ, daysInMonth, daysInYear, hleap]

/-! ## Dates -/

namespace Date

theorem number_mem (d : Date) : 1 ≤ d.number ∧ d.number ≤ lastDayNumber := by
  obtain ⟨year, month, day, hyear, hmonth, hday⟩ := d
  have hmonths : daysBeforeMonth year (month + 1) ≤ daysBeforeMonth year 13 := daysBeforeMonth_le (by omega) (by omega)
  have hyears : daysBeforeYear (year + 1) ≤ daysBeforeYear 10000 := daysBeforeYear_le (by omega) (by omega)
  rw [daysBeforeMonth_succ year hmonth.1, daysBeforeMonth_end] at hmonths
  rw [daysBeforeYear_succ hyear.1, daysBeforeYear_end] at hyears
  simp only [number]
  omega

/-- **The calendar has no gap**: its dates are numbered from 1 to the number of its last day. -/
theorem exists_number_iff {n : Nat} : (∃ d : Date, d.number = n) ↔ 1 ≤ n ∧ n ≤ lastDayNumber := by
  constructor
  · rintro ⟨d, rfl⟩
    exact d.number_mem
  rintro ⟨hfirst, hlast⟩
  rw [← daysBeforeYear_end] at hlast
  obtain ⟨year, hyear, hyear', habove, hbelow⟩ := exists_step (f := daysBeforeYear) (a := 1) hfirst hlast (by omega)
  rw [daysBeforeYear_succ hyear, ← daysBeforeMonth_end] at hbelow
  obtain ⟨month, hmonth, hmonth', habove', hbelow'⟩ :=
    exists_step (f := daysBeforeMonth year) (a := 1) (b := 13) (n := n - daysBeforeYear year)
      (by change 0 < _; omega) (by omega) (by omega)
  rw [daysBeforeMonth_succ year hmonth] at hbelow'
  refine ⟨⟨year, month, n - daysBeforeYear year - daysBeforeMonth year month, ⟨hyear, by omega⟩,
    ⟨hmonth, by omega⟩, by omega⟩, ?_⟩
  simp only [number]
  omega

end Date

end RunSteward
