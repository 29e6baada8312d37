import Mathlib.Algebra.Order.Field.Power
import Mathlib.Algebra.Order.Ring.Rat
import Mathlib.Tactic.Positivity
import Mathlib.Tactic.Ring
import RunSteward.Number.Binary64

/-!
# The values of binary64 numbers

A finite number stands for a rational one (`Binary64.toRat?`). Numbers are compared as what they stand for
(`lt_iff`), and so the smaller of two numbers stands for the smaller of two values (`toRat?_least`). A power of two that
is no greater than the greatest number is exact (`toRat?_power`).
-/

namespace RunSteward

namespace Binary64

/-- The rational number that a finite number stands for. -/
def toRat? : Binary64 → Option ℚ
  | .finite negative m e => some ((if negative then -(m : ℚ) else m) * 2 ^ e)
  | .infinite _ => none
  | .nan => none

/-! ## Order -/

theorem alignTo_value {low e : Int} (hlow : low ≤ e) (negative : Bool) (m : Nat) :
    (alignTo low negative m e : ℚ) * 2 ^ low = (if negative then -(m : ℚ) else m) * 2 ^ e := by
  have hpower : (2 : ℚ) ^ e = 2 ^ (e - low).toNat * 2 ^ low := by
    rw [← zpow_natCast, Int.toNat_of_nonneg (by omega), ← zpow_add₀ (by norm_num)]
    congr 1
    omega
  rw [hpower, alignTo]
  cases negative with
  | true => simp; ring
  | false => simp; ring

theorem lt_iff {x y : Binary64} {p q : ℚ} (hx : x.toRat? = some p) (hy : y.toRat? = some q) :
    lt x y = true ↔ p < q := by
  cases x with
  | nan => cases hx
  | infinite s => cases hx
  | finite s m e =>
    cases y with
    | nan => cases hy
    | infinite t => cases hy
    | finite t n f =>
      obtain rfl := Option.some.inj hx
      obtain rfl := Option.some.inj hy
      have hpositive : (0 : ℚ) < 2 ^ min e f := by positivity
      rw [← alignTo_value (min_le_left e f), ← alignTo_value (min_le_right e f), mul_lt_mul_iff_left₀ hpositive,
        Int.cast_lt]
      simp [lt]

theorem toRat?_least {x y : Binary64} {p q : ℚ} (hx : x.toRat? = some p) (hy : y.toRat? = some q) :
    (least x y).toRat? = some (min p q) := by
  rw [least]
  by_cases hlt : q < p
  · rw [if_pos ((lt_iff hy hx).mpr hlt), hy, min_eq_right hlt.le]
  · rw [if_neg (mt (lt_iff hy hx).mp hlt), hx, min_eq_left (not_lt.mp hlt)]

/-! ## Powers of two -/

theorem scaleDown_power (k j : Nat) :
    ∃ den : Nat, 0 < den ∧ scaleDown (Nat.pow 2 k) 1 ((k : Int) - j) = (2 ^ j * den, den) := by
  rcases Nat.le_total j k with hle | hle
  · have hexponent : (k : Int) - j = .ofNat (k - j) := by simp [Int.ofNat_sub hle]
    refine ⟨2 ^ (k - j), by positivity, ?_⟩
    simp [hexponent, scaleDown, ← pow_add, Nat.add_sub_cancel' hle]
  · rcases Nat.eq_or_lt_of_le hle with rfl | hlt
    · exact ⟨1, by simp, by simp [scaleDown]⟩
    · have hexponent : (k : Int) - j = .negSucc (j - k - 1) := by omega
      refine ⟨1, Nat.one_pos, ?_⟩
      have hsum : k + (j - k - 1 + 1) = j := by omega
      simp [hexponent, scaleDown, ← pow_add, hsum]

theorem exponentOf_power (k : Nat) : exponentOf (Nat.pow 2 k) 1 = (k : Int) - 52 := by
  obtain ⟨den, hden, hscale⟩ := scaleDown_power k 53
  have hguess : max ((Nat.pow 2 k).log2 - Nat.log2 1 - 53 : Int) minExponent = (k : Int) - (53 : Nat) := by
    have hlog : (Nat.pow 2 k).log2 = k := Nat.log2_two_pow
    have hone : Nat.log2 1 = 0 := by decide
    rw [hlog, hone, minExponent]
    omega
  rw [exponentOf, hguess, hscale]
  have hquotient : ¬2 ^ 53 * den / den < Nat.pow 2 53 := by
    rw [Nat.mul_div_cancel _ hden]
    exact lt_irrefl _
  simp only [hquotient, if_false]
  push_cast
  ring

/-- The power of two is the mantissa of a single bit, if it is no greater than the greatest number. -/
theorem ofRatio_power {k : Nat} (hk : k ≤ 1023) :
    ofRatio false (Nat.pow 2 k) 1 = .finite false (2 ^ 52) ((k : Int) - 52) := by
  obtain ⟨den, hden, hscale⟩ := scaleDown_power k 52
  have hnonzero : Nat.pow 2 k ≠ 0 := pow_ne_zero k two_ne_zero
  have hround : roundQuotient (2 ^ 52 * den) den = 2 ^ 52 := by
    rw [roundQuotient, Nat.mul_div_cancel _ hden, Nat.mul_mod_left]
    simp [hden]
  have hexponent : ¬maxExponent < (k : Int) - 52 := by
    rw [maxExponent]
    omega
  rw [ofRatio, if_neg hnonzero, exponentOf_power]
  simp only [Nat.cast_ofNat] at hscale
  simp only [hscale, hround]
  simp [hexponent]

theorem toRat?_power {k : Nat} (hk : k ≤ 1023) : (ofRatio false (Nat.pow 2 k) 1).toRat? = some (2 ^ k) := by
  have hvalue : ((2 ^ 52 : Nat) : ℚ) * 2 ^ ((k : Int) - 52) = 2 ^ k := by
    rw [Nat.cast_pow, Nat.cast_ofNat, ← zpow_natCast, ← zpow_natCast, ← zpow_add₀ (by norm_num)]
    congr 1
    push_cast
    ring
  rw [ofRatio_power hk]
  exact congrArg some hvalue

end Binary64

end RunSteward
