import RunSteward.Proofs.Governance.CalendarEnd

/-!
# The retention rules

As long as the calendar reaches to the end of the periods that are asked for, a run expires by its age and by nothing
else (`expiry_eq`). The age is the time between two instants, so the offsets in which they are written do not count;
it only grows, so what has expired stays expired; and a longer period lets nothing expire (`expiry_by_age`).
-/

namespace RunSteward

/-- No retention period is longer than under the other settings. -/
structure GovernanceSettings.NoLonger (settings settings' : GovernanceSettings) : Prop where
  stale : settings.staleRunRetentionDays ≤ settings'.staleRunRetentionDays
  success : settings.successRetentionDays ≤ settings'.successRetentionDays
  failure : settings.failureRetentionDays ≤ settings'.failureRetentionDays

theorem GovernanceSettings.NoLonger.refl (settings : GovernanceSettings) : settings.NoLonger settings :=
  ⟨Int.le_refl _, Int.le_refl _, Int.le_refl _⟩

namespace WorkflowRun

variable {r : WorkflowRun} {settings settings' : GovernanceSettings} {now now' : Stamp} {days days' : Int}

/-- The microseconds that have gone by since the last update. -/
def age (r : WorkflowRun) (now : Stamp) : Int :=
  now.instant - r.updatedAt.instant

theorem outlived_iff : r.Outlived days now ↔ days * microsPerDay < r.age now := by
  unfold Outlived age
  omega

theorem Outlived.mono (h : r.Outlived days' now) (hdays : days ≤ days') (hnow : now.instant ≤ now'.instant) :
    r.Outlived days now' := by
  have hperiod : days * (microsPerDay : Int) ≤ days' * microsPerDay := Int.mul_le_mul_of_nonneg_right hdays (by decide)
  unfold Outlived at h ⊢
  omega

/-- Why a run has expired, by its age alone. -/
def due (r : WorkflowRun) (settings : GovernanceSettings) (now : Stamp) : Option Reason :=
  if r.Outlived settings.staleRunRetentionDays now then some .stale
  else if r.event = pushEvent ∧ r.Outlived (r.pushDays settings) now then
    some (if r.concludedSuccessfully then .expiredSuccess else .expiredFailure)
  else none

/-- **Within the calendar a run expires by its age.** -/
theorem expiry_eq (h : r.Dated settings now) : r.expiry settings now = .ok (r.due settings now) := by
  have hage := isOlderThan_of_reaches h.1 now
  unfold due
  by_cases hstale : r.Outlived settings.staleRunRetentionDays now
  · rw [decide_eq_true hstale] at hage
    rw [expiry, hage, if_pos hstale]
    rfl
  rw [decide_eq_false hstale] at hage
  rw [if_neg hstale]
  by_cases hpush : r.event = pushEvent
  · rw [expiry_of_push hage hpush, isOlderThan_of_reaches (h.2 hstale hpush) now]
    by_cases hold : r.Outlived (r.pushDays settings) now <;> simp [hpush, hold, Except.map]
  · rw [expiry, hage]
    simp [hpush, bind, Except.bind, pure, Except.pure]

/-! ## Which reason -/

theorem concludedSuccessfully_iff :
    r.concludedSuccessfully = true ↔ r.status = "completed" ∧ r.conclusion = some "success" := by
  simp [concludedSuccessfully]

theorem due_eq_stale_iff : r.due settings now = some .stale ↔ r.Outlived settings.staleRunRetentionDays now := by
  unfold due
  by_cases hstale : r.Outlived settings.staleRunRetentionDays now
  · simp [hstale]
  · cases r.concludedSuccessfully <;> simp [hstale]

theorem due_eq_success_iff : r.due settings now = some .expiredSuccess ↔
    ¬r.Outlived settings.staleRunRetentionDays now ∧ r.event = pushEvent ∧ r.concludedSuccessfully = true ∧
      r.Outlived settings.successRetentionDays now := by
  unfold due pushDays
  by_cases hstale : r.Outlived settings.staleRunRetentionDays now
  · simp [hstale]
  · cases r.concludedSuccessfully <;> simp [hstale]

theorem due_eq_failure_iff : r.due settings now = some .expiredFailure ↔
    ¬r.Outlived settings.staleRunRetentionDays now ∧ r.event = pushEvent ∧ r.concludedSuccessfully = false ∧
      r.Outlived settings.failureRetentionDays now := by
  unfold due pushDays
  by_cases hstale : r.Outlived settings.staleRunRetentionDays now
  · simp [hstale]
  · cases r.concludedSuccessfully <;> simp [hstale]

theorem due_eq_none_iff : r.due settings now = none ↔
    ¬r.Outlived settings.staleRunRetentionDays now ∧
      (r.event = pushEvent → ¬r.Outlived (r.pushDays settings) now) := by
  unfold due
  by_cases hstale : r.Outlived settings.staleRunRetentionDays now <;> simp [hstale]

theorem due_eq_none_iff_of_reasons : r.due settings now = none ↔ r.due settings now ≠ some .stale ∧
    r.due settings now ≠ some .expiredSuccess ∧ r.due settings now ≠ some .expiredFailure := by
  unfold due
  by_cases hstale : r.Outlived settings.staleRunRetentionDays now
  · simp [hstale]
  by_cases hold : r.event = pushEvent ∧ r.Outlived (r.pushDays settings) now
  · cases r.concludedSuccessfully <;> simp [hstale, hold]
  · simp [hstale, hold]

/-! ## Later, and under longer periods -/

/-- The periods that are asked for later were asked for before. -/
theorem Dated.later (h : r.Dated settings now) (hnow : now.instant ≤ now'.instant) : r.Dated settings now' :=
  ⟨h.1, fun hstale hpush => h.2 (fun hold => hstale (hold.mono (Int.le_refl _) hnow)) hpush⟩

theorem pushDays_mono (h : settings.NoLonger settings') : r.pushDays settings ≤ r.pushDays settings' := by
  unfold pushDays
  split
  · exact h.success
  · exact h.failure

/-- What is kept goes on to be kept under longer periods, and was kept at all times before. -/
theorem due_eq_none_mono (hlonger : settings.NoLonger settings') (hnow : now.instant ≤ now'.instant)
    (h : r.due settings now' = none) : r.due settings' now = none := by
  rw [due_eq_none_iff] at h ⊢
  obtain ⟨hstale, hpush⟩ := h
  refine ⟨fun hold => hstale (hold.mono hlonger.stale hnow), fun hevent hold => hpush hevent ?_⟩
  exact hold.mono (pushDays_mono hlonger) hnow

/-- Of the time stamps only the instants count. -/
theorem due_of_instants {t : Stamp} (ht : t.instant = r.updatedAt.instant) (hnow : now'.instant = now.instant) :
    WorkflowRun.due { r with updatedAt := t } settings now' = r.due settings now := by
  have hsame : ∀ days, Outlived { r with updatedAt := t } days now' ↔ r.Outlived days now := by
    intro days
    unfold Outlived
    rw [ht, hnow]
  simp only [due, hsame]
  rfl

/-! ## The rules -/

/-- The reason that the rules give for a run, by its age. -/
structure RuledByAge (r : WorkflowRun) (settings : GovernanceSettings) (now : Stamp) (reason : Option Reason) :
    Prop where
  stale : reason = some .stale ↔ settings.staleRunRetentionDays * microsPerDay < r.age now
  success : reason = some .expiredSuccess ↔ ¬settings.staleRunRetentionDays * microsPerDay < r.age now ∧
    r.event = "push" ∧ (r.status = "completed" ∧ r.conclusion = some "success") ∧
    settings.successRetentionDays * microsPerDay < r.age now
  failure : reason = some .expiredFailure ↔ ¬settings.staleRunRetentionDays * microsPerDay < r.age now ∧
    r.event = "push" ∧ ¬(r.status = "completed" ∧ r.conclusion = some "success") ∧
    settings.failureRetentionDays * microsPerDay < r.age now
  /-- There is no fourth reason. -/
  kept : reason = none ↔ reason ≠ some .stale ∧ reason ≠ some .expiredSuccess ∧ reason ≠ some .expiredFailure

theorem ruledByAge_due (r : WorkflowRun) (settings : GovernanceSettings) (now : Stamp) :
    r.RuledByAge settings now (r.due settings now) where
  stale := by rw [due_eq_stale_iff, outlived_iff]
  success := by
    rw [due_eq_success_iff, outlived_iff, outlived_iff, concludedSuccessfully_iff]
    rfl
  failure := by
    rw [due_eq_failure_iff, outlived_iff, outlived_iff, ← concludedSuccessfully_iff, Bool.not_eq_true]
    rfl
  kept := due_eq_none_iff_of_reasons

/-- **A run expires by its age.** While the calendar reaches far enough, the rules give an answer: a run is stale if it
is older than that period; a push run that is not stale has expired as a success or as a failure if it is older than
the period for these; and nothing else has expired. So the answer depends on the instants of the stamps alone; what has
expired has expired at every later time, and what is stale stays so; and under longer periods nothing more expires. -/
theorem expiry_by_age (r : WorkflowRun) (settings : GovernanceSettings) (now : Stamp) (hdated : r.Dated settings now) :
    (∃ reason, r.expiry settings now = .ok reason ∧ r.RuledByAge settings now reason) ∧
    (∀ t now', t.instant = r.updatedAt.instant → now'.instant = now.instant →
      Dated settings now' { r with updatedAt := t } →
      expiry { r with updatedAt := t } settings now' = r.expiry settings now) ∧
    (∀ later : Stamp, now.instant ≤ later.instant →
      (∀ reason, r.expiry settings now = .ok (some reason) → ∃ reason', r.expiry settings later = .ok (some reason')) ∧
      (r.expiry settings now = .ok (some .stale) → r.expiry settings later = .ok (some .stale))) ∧
    ∀ settings', settings.NoLonger settings' → r.Dated settings' now → r.expiry settings now = .ok none →
      r.expiry settings' now = .ok none := by
  rw [expiry_eq hdated]
  refine ⟨⟨_, rfl, ruledByAge_due r settings now⟩, fun t now' ht hnow hdated' => ?_, fun later hlater => ?_,
    fun settings' hlonger hdated' hnone => ?_⟩
  · rw [expiry_eq hdated', due_of_instants ht hnow]
  · rw [expiry_eq (hdated.later hlater)]
    refine ⟨fun reason hreason => ?_, fun hstale => ?_⟩
    · rcases hlast : r.due settings later with _ | reason'
      · have hnone := due_eq_none_mono (.refl settings) hlater hlast
        rw [hnone] at hreason
        cases hreason
      · exact ⟨reason', rfl⟩
    · have hold := due_eq_stale_iff.mp (Except.ok.inj hstale)
      rw [due_eq_stale_iff.mpr (hold.mono (Int.le_refl _) hlater)]
  · rw [expiry_eq hdated', due_eq_none_mono hlonger (Int.le_refl _) (Except.ok.inj hnone)]

open RunStore

/-- A push run that was a success at the beginning of the calendar. -/
def builtRun : WorkflowRun :=
  { queuedRun 1 "main" "push" with status := "completed", conclusion := some "success" }

def usualSettings : GovernanceSettings :=
  { trustedCommitters := ["alice"], retentionPageCount := 1 }

/-- The settings with twice the periods. -/
def patientSettings : GovernanceSettings :=
  { usualSettings with staleRunRetentionDays := 60, successRetentionDays := 4, failureRetentionDays := 14 }

/-- Midnight in another zone, two hours ahead. -/
def midnightAbroad : Stamp :=
  { (default : Stamp) with
    time := { TimeOfDay.midnight with hour := 2, hour_lt := by decide }, offset := Offset.of? 7200000000 }

def thirdMidnight : Stamp :=
  { (default : Stamp) with date := { Date.first with day := 4, day_mem := by decide } }

/-- Three days after its last update the run has expired, whichever zone that is written in, and has expired in March;
at the time of the update it is kept, and under the longer periods as well. -/
theorem expiry_by_age_built :
    builtRun.Dated usualSettings thirdMidnight ∧ builtRun.Dated usualSettings default ∧
      builtRun.expiry usualSettings thirdMidnight = .ok (some .expiredSuccess) ∧
      expiry { builtRun with updatedAt := midnightAbroad } usualSettings thirdMidnight = .ok (some .expiredSuccess) ∧
      (∃ reason, builtRun.expiry usualSettings march = .ok (some reason)) ∧
      builtRun.expiry patientSettings default = .ok none := by
  have hreaches : ∀ days, 0 ≤ days → days ≤ 60 → Date.first.Reaches days := by
    intro days hfirst hlast
    have hnumber : Date.first.number = 1 := by decide
    have hcalendar : 61 ≤ lastDayNumber := by decide
    rw [Date.reaches_iff]
    omega
  have hdated : ∀ now, builtRun.Dated usualSettings now :=
    fun now => ⟨hreaches 30 (by decide) (by decide), fun _ _ => hreaches 2 (by decide) (by decide)⟩
  have hpatient : builtRun.Dated patientSettings default :=
    ⟨hreaches 60 (by decide) (by decide), fun _ _ => hreaches 4 (by decide) (by decide)⟩
  have habroad : Dated usualSettings thirdMidnight { builtRun with updatedAt := midnightAbroad } :=
    ⟨hreaches 30 (by decide) (by decide), fun _ _ => hreaches 2 (by decide) (by decide)⟩
  obtain ⟨⟨reason, hreason, hruled⟩, hzones, hlater, -⟩ :=
    expiry_by_age builtRun usualSettings thirdMidnight (hdated thirdMidnight)
  obtain ⟨-, -, -, hlonger⟩ := expiry_by_age builtRun usualSettings default (hdated default)
  obtain rfl := hruled.success.mpr (by decide)
  have hzone := hzones midnightAbroad thirdMidnight (by decide) rfl habroad
  refine ⟨hdated _, hdated _, hreason, hzone.trans hreason, (hlater march (by decide)).1 _ hreason, ?_⟩
  exact hlonger patientSettings ⟨by decide, by decide, by decide⟩ hpatient (by decide)

end WorkflowRun

end RunSteward
