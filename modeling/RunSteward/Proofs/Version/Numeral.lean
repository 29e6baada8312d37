import RunSteward.Proofs.Text.Decimal
import RunSteward.Proofs.Text.Span
import RunSteward.Version.Grammar

/-!
# Numerals of versions

A numeral is a zero, or a digit from 1 to 9 with more digits behind it, which may be of any script (`Denotes`). A
numeral
in front of a text is taken as far as its digits go (`Denotes.take`), and nothing else is taken (`exists_numeral`).
Every
natural number has a numeral, its decimal text (`denotes_toDigits`).
-/

namespace RunSteward.Version

open Text

/-- Tells which number a row of characters denotes as a numeral. -/
inductive Denotes : List Char → Nat → Prop
  | zero : Denotes ['0'] 0
  | leading (i : Fin 9) : Denotes [Nat.digitChar (i + 1)] (i + 1)
  | more {row : List Char} {n : Nat} {c : Char} {d : Nat} (h : Denotes row n) (hpos : 0 < n)
      (hc : digitValue? c = some d) : Denotes (row ++ [c]) (10 * n + d)

/-- A numeral with the number that it denotes. -/
structure Numeral where
  chars : List Char
  value : Nat
  denotes : Denotes chars value

variable {row s rest : List Char} {n m : Nat} {c : Char}

/-! ## Rows of digits -/

theorem foldDigits?_concat (acc : Nat) (row : List Char) (c : Char) :
    foldDigits? acc (row ++ [c]) = (foldDigits? acc row).bind fun n => (digitValue? c).map (10 * n + ·) := by
  induction row generalizing acc with
  | nil =>
    rw [List.nil_append, foldDigits?, foldDigits?]
    cases digitValue? c <;> rfl
  | cons d row ih =>
    rw [List.cons_append, foldDigits?, foldDigits?]
    cases hd : digitValue? d with
    | none => rfl
    | some k => exact ih _

theorem endsAt_point (s : List Char) : EndsAt isDigit ('.' :: s) :=
  EndsAt.cons (by decide) s

theorem digitValue?_leading (i : Fin 9) : digitValue? (Nat.digitChar (i + 1)) = some (i + 1 : Nat) :=
  digitValue?_digitChar i.succ

theorem leading_range (i : Fin 9) :
    '1' ≤ Nat.digitChar (i + 1) ∧ Nat.digitChar (i + 1) ≤ '9' ∧ Nat.digitChar (i + 1) ≠ '0' := by
  revert i
  decide

theorem exists_leading (h : '1' ≤ c ∧ c ≤ '9') : ∃ i : Fin 9, c = Nat.digitChar (i + 1) := by
  have hlow : 49 ≤ c.toNat := h.1
  have hhigh : c.toNat ≤ 57 := h.2
  have hdigit := eq_digitChar (c := c) ⟨by omega, hhigh⟩
  refine ⟨⟨c.toNat - 49, by omega⟩, hdigit.trans (congrArg Nat.digitChar ?_)⟩
  dsimp only
  omega

theorem digitValue?_lt {d : Nat} (h : digitValue? c = some d) : d < 10 := by
  obtain ⟨z, hz, rfl⟩ := Option.map_eq_some_iff.mp h
  have hrange := List.find?_some hz
  simp only [Bool.and_eq_true, decide_eq_true_eq] at hrange
  omega

namespace Denotes

theorem fold (h : Denotes row n) : foldDigits? 0 row = some n := by
  induction h with
  | zero => decide
  | leading i =>
    rw [foldDigits?, digitValue?_leading]
    simp [foldDigits?]
  | more h hpos hc ih => rw [foldDigits?_concat, ih, Option.bind_some, hc, Option.map_some]

theorem unique (h : Denotes row n) (h' : Denotes row m) : n = m :=
  Option.some.inj (h.fold.symm.trans h'.fold)

theorem digits (h : Denotes row n) : ∀ c ∈ row, isDigit c = true := by
  induction h with
  | zero => exact List.forall_mem_singleton.mpr (by decide)
  | leading i =>
    rw [List.forall_mem_singleton, isDigit, digitValue?_leading]
    rfl
  | more h hpos hc ih =>
    intro d hd
    rcases List.mem_append.mp hd with hd | hd
    · exact ih d hd
    · obtain rfl := List.mem_singleton.mp hd
      rw [isDigit, hc]
      rfl

theorem length_pos (h : Denotes row n) : 0 < row.length := by
  cases h with
  | zero => simp
  | leading i => simp
  | more h hpos hc => simp

theorem length_le_iff (h : Denotes row n) {k : Nat} (hk : 0 < k) : row.length ≤ k ↔ n < 10 ^ k := by
  induction h generalizing k with
  | zero => simp [Nat.succ_le_of_lt hk]
  | leading i =>
    have hpow : 10 ≤ 10 ^ k := Nat.le_self_pow (by omega) 10
    have hi := i.isLt
    simp only [List.length_singleton]
    omega
  | @more row n c d h hpos hc ih =>
    have hd := digitValue?_lt hc
    obtain ⟨k, rfl⟩ := Nat.exists_eq_succ_of_ne_zero hk.ne'
    rw [List.length_append, List.length_singleton, Nat.succ_le_succ_iff, Nat.pow_succ]
    rcases Nat.eq_zero_or_pos k with rfl | hk
    · have hlength := h.length_pos
      simp only [Nat.pow_zero]
      omega
    · rw [ih hk]
      omega

theorem of_zero (h : Denotes row 0) : row = ['0'] := by
  generalize hn : 0 = n at h
  cases h with
  | zero => rfl
  | leading i => omega
  | more h hpos hc => omega

theorem head_of_pos (h : Denotes row n) (hpos : 0 < n) :
    ∃ (i : Fin 9) (ds : List Char), row = Nat.digitChar (i + 1) :: ds := by
  induction h with
  | zero => exact absurd hpos (lt_irrefl 0)
  | leading i => exact ⟨i, [], rfl⟩
  | more h hfront hc ih =>
    obtain ⟨i, ds, rfl⟩ := ih hfront
    exact ⟨i, ds ++ [_], rfl⟩

theorem head (h : Denotes row n) : ∃ (i : Fin 10) (ds : List Char), row = Nat.digitChar i :: ds := by
  rcases Nat.eq_zero_or_pos n with rfl | hpos
  · exact ⟨0, [], h.of_zero⟩
  · obtain ⟨i, ds, hrow⟩ := h.head_of_pos hpos
    exact ⟨i.succ, ds, hrow⟩

theorem extend (h : Denotes row n) (hpos : 0 < n) {ds : List Char} (hds : foldDigits? n ds = some m) :
    Denotes (row ++ ds) m := by
  induction ds generalizing row n with
  | nil =>
    obtain rfl : n = m := by simpa [foldDigits?] using hds
    simpa using h
  | cons d ds ih =>
    rw [foldDigits?] at hds
    obtain ⟨k, hd, hrest⟩ := Option.bind_eq_some_iff.mp hds
    have hlonger := ih (h.more hpos hd) (by omega) hrest
    simpa using hlonger

end Denotes

namespace Numeral

theorem chars_injective {a b : Numeral} (h : a.chars = b.chars) : a = b := by
  obtain ⟨row, n, hn⟩ := a
  obtain ⟨row', m, hm⟩ := b
  obtain rfl : row = row' := h
  obtain rfl := hn.unique hm
  rfl

end Numeral

/-! ## Decimal text -/

theorem denotes_toDigits (n : Nat) : Denotes (Nat.toDigits 10 n) n := by
  induction n using Nat.strongRecOn with
  | ind n ih =>
    by_cases hsmall : n < 10
    · rw [Nat.toDigits_of_lt_base hsmall]
      cases n with
      | zero => exact .zero
      | succ k => exact .leading ⟨k, by omega⟩
    · have hsplit : 10 * (n / 10) + n % 10 = n := Nat.div_add_mod n 10
      have hlast : n % 10 < 10 := Nat.mod_lt n (by decide)
      have hrow := (ih (n / 10) (by omega)).more (by omega) (digitValue?_digitChar ⟨n % 10, hlast⟩)
      rw [← Nat.toDigits_of_lt_base hlast, Nat.toDigits_append_toDigits (by decide) (by omega) hlast, hsplit] at hrow
      exact hrow

/-- The decimal text of a number. -/
def Numeral.decimal (n : Nat) : Numeral :=
  ⟨Nat.toDigits 10 n, n, denotes_toDigits n⟩

/-- The number that so many ones behind a first one denote. -/
def repunit : Nat → Nat
  | 0 => 1
  | k + 1 => 10 * repunit k + 1

theorem repunit_pos (k : Nat) : 0 < repunit k := by
  cases k <;> simp [repunit]

theorem denotes_ones (k : Nat) : Denotes (List.replicate (k + 1) '1') (repunit k) := by
  induction k with
  | zero => exact .leading 0
  | succ k ih =>
    rw [List.replicate_succ']
    exact ih.more (repunit_pos k) (digitValue?_leading 0)

/-- A numeral of so many ones behind a first one. -/
def Numeral.ones (k : Nat) : Numeral :=
  ⟨List.replicate (k + 1) '1', repunit k, denotes_ones k⟩

/-! ## Taking a numeral -/

theorem Denotes.take (h : Denotes row n) (hrest : EndsAt isDigit rest) :
    takeNumeral? (row ++ rest) = some (n, rest) := by
  rcases Nat.eq_zero_or_pos n with rfl | hpos
  · rw [h.of_zero]
    rfl
  · obtain ⟨i, ds, rfl⟩ := h.head_of_pos hpos
    obtain ⟨hlow, hhigh, hzero⟩ := leading_range i
    have hds : ∀ c ∈ ds, isDigit c = true := fun c hc => h.digits c (List.mem_cons_of_mem _ hc)
    rw [List.cons_append, takeNumeral?, if_neg hzero, if_pos ⟨hlow, hhigh⟩, takeWhile_append_endsAt hds hrest,
      dropWhile_append_endsAt hds hrest, numeral?, if_neg (by simp), h.fold, Option.map_some]

theorem exists_numeral (h : takeNumeral? s = some (n, rest)) :
    ∃ p : Numeral, s = p.chars ++ rest ∧ p.value = n := by
  cases s with
  | nil => cases h
  | cons c cs =>
    rw [takeNumeral?] at h
    split at h
    · next hzero =>
      obtain ⟨rfl, rfl⟩ : 0 = n ∧ cs = rest := by simpa using h
      exact ⟨⟨['0'], 0, .zero⟩, by rw [hzero]; rfl, rfl⟩
    · split at h
      · next hlead =>
        obtain ⟨i, rfl⟩ := exists_leading hlead
        obtain ⟨m, hm, hparts⟩ := Option.map_eq_some_iff.mp h
        obtain ⟨rfl, rfl⟩ : m = n ∧ cs.dropWhile isDigit = rest := by simpa using hparts
        rw [numeral?, if_neg (by simp), foldDigits?, digitValue?_leading, Option.bind_some] at hm
        refine ⟨⟨_, m, (Denotes.leading i).extend (by omega) (by simpa using hm)⟩, ?_, rfl⟩
        simp
      · cases h

end RunSteward.Version
