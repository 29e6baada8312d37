import RunSteward.Gateway.Request

/-!
# Pauses

Between two attempts there is a pause. Without advice it is known up to the attempt with the number 1024
(`Pause.backoff_of_le`). A reply of a used-up rate limit may advise another one in a row of digits, which can be read
unless some digit takes no part in decimal numerals (`Pause.rateLimit_told`).
-/

namespace RunSteward

/-! ## Numerals -/

namespace Text

theorem foldDigits?_isSome_iff (acc : Nat) (cs : List Char) :
    (foldDigits? acc cs).isSome = true ↔ ∀ c ∈ cs, isDigit c = true := by
  induction cs generalizing acc with
  | nil => simp [foldDigits?]
  | cons c cs ih =>
    rw [foldDigits?, List.forall_mem_cons, isDigit]
    rcases digitValue? c with _ | d
    · simp
    · simpa using ih (10 * acc + d)

theorem numeral?_eq_none_iff {cs : List Char} (hne : cs ≠ []) :
    numeral? cs = none ↔ ∃ c ∈ cs, isDigit c = false := by
  have hempty : ¬cs.isEmpty = true := by simpa using hne
  rw [numeral?, if_neg hempty, ← Option.not_isSome_iff_eq_none, foldDigits?_isSome_iff]
  simp

end Text

namespace Pause

/-! ## Without advice -/

variable {h : Headers} {attempt : Int} {b : Binary64}

/-- No pause before the last of a thousand and twenty-four attempts is too long. -/
theorem backoff_of_le (hfirst : 1 ≤ attempt) (hmost : attempt ≤ 1024) :
    backoff attempt = .ok (Binary64.least (powerOfTwo (attempt - 1)) longest) := by
  unfold backoff
  rw [if_neg]
  omega

theorem backoff_error {f : Fault} (hbackoff : backoff attempt = .error f) :
    f = .pauseTooLong ∧ ¬(1 ≤ attempt ∧ attempt ≤ 1024) := by
  refine ⟨?_, fun hrange => ?_⟩
  · unfold backoff at hbackoff
    dsimp only at hbackoff
    split at hbackoff
    · exact (Except.error.inj hbackoff).symm
    · cases hbackoff
  · rw [backoff_of_le hrange.1 hrange.2] at hbackoff
    cases hbackoff

/-! ## With advice -/

/-- The row of digits by which a reply says how long to wait, or until when. -/
def wanted? (h : Headers) : Option (List Char) :=
  (digits? h "retry-after").or (digits? h "x-ratelimit-reset")

/-- A wish for a pause in which some digit is only an ornament. -/
def Ornate (h : Headers) : Prop :=
  ∃ digits, wanted? h = some digits ∧ ∃ c ∈ digits, Text.isDigit c = false

theorem digits_ne_nil {name : String} {digits : List Char} (hdigits : digits? h name = some digits) :
    digits ≠ [] := by
  have hrow := (Option.filter_eq_some_iff.mp hdigits).2
  intro hnil
  simp [hnil, Text.isDigitRow] at hrow

theorem wanted?_ne_nil {digits : List Char} (hwanted : wanted? h = some digits) : digits ≠ [] := by
  rcases Option.or_eq_some_iff.mp hwanted with hafter | ⟨-, hreset⟩
  · exact digits_ne_nil hafter
  · exact digits_ne_nil hreset

theorem seconds_of_wanted {digits : List Char} (hwanted : wanted? h = some digits) :
    (∃ n, seconds digits = .ok n ∧ ¬Ornate h) ∨ (seconds digits = .error .pauseUnreadable ∧ Ornate h) := by
  have hiff := Text.numeral?_eq_none_iff (wanted?_ne_nil hwanted)
  unfold seconds
  rcases hnumeral : Text.numeral? digits with _ | n
  · exact .inr ⟨rfl, digits, hwanted, hiff.mp hnumeral⟩
  · refine .inl ⟨_, rfl, ?_⟩
    rintro ⟨digits', hwanted', hornament⟩
    obtain rfl : digits = digits' := Option.some.inj (hwanted.symm.trans hwanted')
    rw [hiff.mpr hornament] at hnumeral
    cases hnumeral

theorem rateLimit_told (h : Headers) (hbackoff : backoff attempt = .ok b) (t : Stamp) :
    (∃ pause, rateLimit h attempt (Gateway.seconds t) = .ok pause ∧ ¬Ornate h) ∨
      (rateLimit h attempt (Gateway.seconds t) = .error .pauseUnreadable ∧ Ornate h) := by
  unfold rateLimit
  rcases hafter : digits? h "retry-after" with _ | digits
  · rcases hreset : digits? h "x-ratelimit-reset" with _ | digits
    · refine .inl ⟨b, hbackoff, ?_⟩
      rintro ⟨digits, hwanted, -⟩
      simp [wanted?, hafter, hreset] at hwanted
    · have hwanted : wanted? h = some digits := by simp [wanted?, hafter, hreset]
      rcases seconds_of_wanted hwanted with ⟨n, hn, hplain⟩ | ⟨hn, hornate⟩
      · exact .inl ⟨_, by simp only [hn]; rfl, hplain⟩
      · exact .inr ⟨by simp only [hn]; rfl, hornate⟩
  · have hwanted : wanted? h = some digits := by simp [wanted?, hafter]
    rcases seconds_of_wanted hwanted with ⟨n, hn, hplain⟩ | ⟨hn, hornate⟩
    · exact .inl ⟨_, by simp only [hn]; rfl, hplain⟩
    · exact .inr ⟨by simp only [hn]; rfl, hornate⟩

end Pause

end RunSteward
