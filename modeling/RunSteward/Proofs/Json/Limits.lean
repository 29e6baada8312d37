import Mathlib.Data.List.TakeWhile
import RunSteward.Json.Reader

/-!
# Limits of the reader

A text that cannot be read has an integer with too many digits, or is nested too deep (`read_fault`); the rules follow
the reader through all that it is put together from. A row of digits that is too long is such a text (`read_ones`).
-/

namespace RunSteward.Json

variable {α β : Type} {x : Except Defect α}

/-- A limit that the reader may meet. -/
inductive Limit : Fault → Prop where
  | digits : Limit .numeralTooLong
  | nesting : Limit .nestedTooDeep

/-- Reading that breaks off over nothing but a limit. -/
def Limited (x : Except Defect α) : Prop :=
  ∀ f, x = .error (.fault f) → Limit f

theorem limited_ok (a : α) : Limited (.ok a) :=
  nofun

theorem limited_malformed : Limited (.error .malformed : Except Defect α) :=
  nofun

theorem limited_digits : Limited (.error (.fault .numeralTooLong) : Except Defect α) := by
  rintro f ⟨⟩
  exact .digits

theorem limited_nesting : Limited (.error (.fault .nestedTooDeep) : Except Defect α) := by
  rintro f ⟨⟩
  exact .nesting

theorem limited_orMalformed (a : Option α) : Limited (orMalformed a) := by
  cases a with
  | none => exact limited_malformed
  | some a => exact limited_ok a

theorem Limited.bind {f : α → Except Defect β} (hx : Limited x) (hf : ∀ a, Limited (f a)) : Limited (x >>= f) := by
  cases x with
  | ok a => exact hf a
  | error e =>
    rintro g ⟨⟩
    exact hx g rfl

theorem Limited.map (f : α → β) (hx : Limited x) : Limited (x.map f) := by
  cases x with
  | ok a => exact limited_ok _
  | error e =>
    rintro g ⟨⟩
    exact hx g rfl

/-! ## The parts of the reader -/

theorem readString_limited (s : List Char) : Limited (readString s) :=
  (limited_orMalformed _).map _

theorem readWord_limited (word : String) (value : Json) (s : List Char) : Limited (readWord word value s) :=
  (limited_orMalformed _).map _

theorem readNumber_limited (negative : Bool) (s : List Char) : Limited (readNumber negative s) := by
  refine (limited_orMalformed _).bind fun lead => ?_
  dsimp only
  split
  · split
    · exact limited_digits
    · exact limited_ok _
  · exact limited_ok _

/-- By induction on the fuel, for values, items and members at once. -/
theorem reader_limited (fuel : Nat) :
    (∀ depth s, Limited (readValue fuel depth s)) ∧ (∀ depth done s, Limited (readItems fuel depth done s)) ∧
      ∀ depth done s, Limited (readMembers fuel depth done s) := by
  induction fuel with
  | zero => exact ⟨fun _ _ => limited_malformed, fun _ _ _ => limited_malformed, fun _ _ _ => limited_malformed⟩
  | succ fuel ih =>
    obtain ⟨hvalue, hitems, hmembers⟩ := ih
    refine ⟨fun depth s => ?_, fun depth done s => ?_, fun depth done s => ?_⟩
    · unfold readValue
      split
      · exact (readString_limited _).map _
      · split
        · exact limited_nesting
        · split
          · exact limited_ok _
          · exact hmembers _ _ _
      · split
        · exact limited_nesting
        · split
          · exact limited_ok _
          · exact hitems _ _ _
      iterate 6 exact readWord_limited _ _ _
      · exact (readNumber_limited _ _).map _
      · exact (readNumber_limited _ _).map _
    · refine (hvalue _ _).bind fun item => ?_
      dsimp only
      split
      · exact limited_ok _
      · exact hitems _ _ _
      · exact limited_malformed
    · unfold readMembers
      split
      · refine (readString_limited _).bind fun name => ?_
        dsimp only
        split
        · refine (hvalue _ _).bind fun value => ?_
          split
          · exact limited_ok _
          · exact hmembers _ _ _
          · exact limited_malformed
        · exact limited_malformed
      · exact limited_malformed

theorem read_fault {depth : Nat} {text : String} {f : Fault} (h : read depth text = .error f) : Limit f := by
  unfold read at h
  dsimp only at h
  split at h
  · cases h
  · cases h
  · next hvalue =>
    obtain rfl := Except.error.inj h
    exact (reader_limited _).1 _ _ _ hvalue

/-! ## A row of digits -/

/-- So many ones behind a first one. -/
def ones (n : Nat) : List Char :=
  List.replicate (n + 1) '1'

theorem readNumber_ones {n : Nat} (h : Text.digitLimit ≤ n) (negative : Bool) :
    readNumber negative (ones n) = .error (.fault .numeralTooLong) := by
  have hdigits : ∀ c ∈ ones n, isAsciiDigit c = true := by
    intro c hc
    rw [List.eq_of_mem_replicate hc]
    decide
  have htake : (ones n).takeWhile isAsciiDigit = ones n := List.takeWhile_eq_self_iff.mpr hdigits
  have hdrop : (ones n).dropWhile isAsciiDigit = [] := List.dropWhile_eq_nil_iff.mpr hdigits
  have hlead : takeLead (ones n) = some (ones n, []) := by
    rw [takeLead.eq_2 (ones n) (fun cs heq => by cases heq), htake, hdrop]
    rfl
  have hlong : Text.digitLimit < (ones n).length := by
    rw [ones, List.length_replicate]
    omega
  rw [readNumber, hlead]
  exact if_pos hlong

/-- **A long row of digits cannot be read.** -/
theorem read_ones {n : Nat} (h : Text.digitLimit ≤ n) (depth : Nat) :
    read depth (String.ofList (ones n)) = .error .numeralTooLong := by
  have hgap : skipGap (ones n) = ones n := rfl
  have hvalue : ∀ fuel, readValue (fuel + 1) depth (ones n) = .error (.fault .numeralTooLong) := by
    intro fuel
    have hnumber : readValue (fuel + 1) depth (ones n) = (readNumber false (ones n)).map fun p => (.number p.1, p.2) := rfl
    rw [hnumber, readNumber_ones h]
    rfl
  rw [read, String.toList_ofList, hgap, hvalue]

end RunSteward.Json
