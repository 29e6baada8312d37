import Mathlib.Data.List.TakeWhile
import Mathlib.Data.Nat.Digits.Defs
import RunSteward.Text.Digit

/-!
# Decimal integers

An integer is written as a row of decimal digits, perhaps with a sign in front (`Decimal`). Reading the text gives the
integer that the digits stand for (`integer?_text`), with whatever zeros they begin, unless there are too many of them:
then nothing is read (`integer?_overlong`).
-/

namespace RunSteward.Text

/-- An integer as it is written in decimal digits. -/
structure Decimal where
  sign : List Char := []
  digits : List (Fin 10)
  sign_mem : sign ∈ [[], ['+'], ['-']] := by decide
  digits_ne_nil : digits ≠ [] := by decide

namespace Decimal

def text (d : Decimal) : List Char :=
  d.sign ++ d.digits.map fun i => Nat.digitChar i.val

def magnitude (d : Decimal) : Nat :=
  Nat.ofDigits 10 (d.digits.reverse.map Fin.val)

def value (d : Decimal) : Int :=
  if d.sign = ['-'] then -(d.magnitude : Int) else d.magnitude

end Decimal

/-! ## Reading digits -/

theorem digitValue?_digitChar (i : Fin 10) : digitValue? (Nat.digitChar i.val) = some i.val := by
  revert i
  decide

theorem eq_digitChar {c : Char} (h : 48 ≤ c.toNat ∧ c.toNat ≤ 57) : c = Nat.digitChar (c.toNat - 48) := by
  refine Char.toNat_inj.mp ?_
  rw [Nat.toNat_digitChar_of_lt_ten (by omega)]
  omega

theorem digitChar_plain (i : Fin 10) :
    isMargin (Nat.digitChar i.val) = false ∧ Nat.digitChar i.val ∉ ['_', '+', '-', ' ', '\r', '\n'] := by
  revert i
  decide

theorem foldDigits?_digits (acc : Nat) (ds : List (Fin 10)) :
    foldDigits? acc (ds.map fun i => Nat.digitChar i.val) =
      some (10 ^ ds.length * acc + Nat.ofDigits 10 (ds.reverse.map Fin.val)) := by
  induction ds generalizing acc with
  | nil => simp [foldDigits?]
  | cons i ds ih =>
    rw [List.map_cons, foldDigits?, digitValue?_digitChar, Option.bind_some, ih]
    have hlast : Nat.ofDigits 10 ((i :: ds).reverse.map Fin.val) =
        Nat.ofDigits 10 (ds.reverse.map Fin.val) + 10 ^ ds.length * i.val := by
      simp [Nat.ofDigits_append]
    rw [hlast, List.length_cons, Nat.pow_succ]
    congr 1
    ring

theorem dropSeparators?_of_not_mem {s : List Char} (h : '_' ∉ s) : dropSeparators? s = some s := by
  induction s with
  | nil => rfl
  | cons c s ih =>
    have hc : c ≠ '_' := fun heq => h (by simp [heq])
    have hs : '_' ∉ s := fun hmem => h (by simp [hmem])
    cases s with
    | nil => simp [dropSeparators?, hc]
    | cons d s =>
      have hd : d ≠ '_' := fun heq => hs (by simp [heq])
      rw [dropSeparators?.eq_4 _ _ _ (fun _ _ heq _ => hd heq), if_neg hc, ih hs]
      rfl

namespace Decimal

variable (d : Decimal)

/-- The digits of an integer are read as a numeral, unless there are too many of them. -/
theorem separatedNumeral?_digits : separatedNumeral? (d.digits.map fun i => Nat.digitChar i.val) =
    if d.digits.length ≤ digitLimit then some d.magnitude else none := by
  have hplain : '_' ∉ d.digits.map fun i => Nat.digitChar i.val := by
    intro hmem
    obtain ⟨i, -, hi⟩ := List.mem_map.mp hmem
    exact (digitChar_plain i).2 (by simp [hi])
  have hempty : ¬(d.digits.map fun i => Nat.digitChar i.val).isEmpty = true := by
    simpa using d.digits_ne_nil
  rw [separatedNumeral?, dropSeparators?_of_not_mem hplain, Option.filter_some, List.length_map]
  by_cases hlimit : d.digits.length ≤ digitLimit
  · rw [if_pos (decide_eq_true hlimit), if_pos hlimit, Option.bind_some, numeral?, if_neg hempty, foldDigits?_digits]
    simp [magnitude]
  · rw [if_neg (by simpa using hlimit), if_neg hlimit, Option.bind_none]

theorem text_plain {c : Char} (hc : c ∈ d.text) : isMargin c = false ∧ c ∉ [' ', '\r', '\n'] := by
  rcases List.mem_append.mp hc with hsign | hdigit
  · have hmem := d.sign_mem
    simp only [List.mem_cons, List.not_mem_nil, or_false] at hmem
    rcases hmem with hnone | hplus | hminus
    · simp [hnone] at hsign
    · obtain rfl : c = '+' := by simpa [hplus] using hsign
      decide
    · obtain rfl : c = '-' := by simpa [hminus] using hsign
      decide
  · obtain ⟨i, -, rfl⟩ := List.mem_map.mp hdigit
    have hplain := digitChar_plain i
    simp only [List.mem_cons, not_or] at hplain ⊢
    exact ⟨hplain.1, hplain.2.2.2.2⟩

theorem trimmed_text :
    ((d.text.dropWhile isMargin).reverse.dropWhile isMargin).reverse = d.text := by
  have hstays : ∀ s : List Char, (∀ c ∈ s, c ∈ d.text) → s.dropWhile isMargin = s := by
    intro s hs
    rw [List.dropWhile_eq_self_iff]
    intro hpos hmargin
    have hplain := (d.text_plain (hs _ (List.getElem_mem hpos))).1
    rw [hplain] at hmargin
    cases hmargin
  rw [hstays d.text fun _ hc => hc, hstays d.text.reverse fun _ hc => List.mem_reverse.mp hc, List.reverse_reverse]

theorem integer?_eq : integer? d.text = if d.digits.length ≤ digitLimit then some d.value else none := by
  have hnumeral := d.separatedNumeral?_digits
  have hsign := d.sign_mem
  simp only [List.mem_cons, List.not_mem_nil, or_false] at hsign
  unfold integer?
  rw [d.trimmed_text, text, value]
  rcases hsign with hnone | hplus | hminus
  · rw [hnone, List.nil_append]
    -- the first digit is no sign, so the digits are read as they stand
    obtain ⟨i, ds, hdigits⟩ := List.exists_cons_of_ne_nil d.digits_ne_nil
    have hfirst := (digitChar_plain i).2
    rw [hdigits] at hnumeral ⊢
    simp only [List.mem_cons, not_or] at hfirst
    split
    · rename_i heq
      exact absurd (List.cons.inj heq).1 hfirst.2.2.1
    · rename_i heq
      exact absurd (List.cons.inj heq).1 hfirst.2.1
    · rw [hnumeral]
      split <;> rfl
  · rw [hplus]
    by_cases hlimit : d.digits.length ≤ digitLimit <;> simp [hnumeral, hlimit]
  · rw [hminus]
    by_cases hlimit : d.digits.length ≤ digitLimit <;> simp [hnumeral, hlimit]

/-- **Decimal integers are read**: the text of an integer denotes the integer. -/
theorem integer?_text (hlimit : d.digits.length ≤ digitLimit) : integer? d.text = some d.value := by
  rw [integer?_eq, if_pos hlimit]

theorem integer?_overlong (hlimit : digitLimit < d.digits.length) : integer? d.text = none := by
  rw [integer?_eq, if_neg (by omega)]

end Decimal

end RunSteward.Text
