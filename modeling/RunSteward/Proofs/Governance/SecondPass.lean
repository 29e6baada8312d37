import RunSteward.Proofs.Governance.Repetition
import RunSteward.Proofs.Governance.Settling

/-!
# The second pass

After one pass a second one changes nothing (`second_pass_idle`). All that it may still ask for is the
cancellation of duplicates that are over: a run whose conclusion reads `queued` is listed among the queued ones for
ever, and the host refuses to cancel it each time.
-/

namespace RunSteward

namespace RunStore

variable {T : RunStore} {l : Ledger} {o : Order} {os : List Order} {r : WorkflowRun} {f : RunFilter}
  {settings : GovernanceSettings} {now : Stamp} {branches : List Branch}

/-- A run that is over, but listed among the queued ones for its conclusion. -/
def Lingers (T : RunStore) (i : Int) : Prop :=
  ∃ r ∈ T.runs, r.id = i ∧ r.isActive = false ∧ r.conclusion = some "queued"

/-- Only a conclusion that reads so lists a run that is over among the queued ones. -/
theorem lingers_of_listed (hr : r ∈ T.listed f) (hqueued : f.status = some "queued")
    (hinactive : r.isActive = false) : T.Lingers r.id := by
  obtain ⟨hmem, hadmits⟩ := List.mem_filter.mp hr
  refine ⟨r, hmem, rfl, hinactive, ?_⟩
  have hstatus : r.status ≠ "queued" := by
    intro hstatus
    simp [WorkflowRun.isActive, hstatus] at hinactive
  simp only [RunFilter.admits, Bool.and_eq_true, hqueued, Option.all_some] at hadmits
  simpa [hstatus] using hadmits.2

/-- A ledger of vain cancellations: all its actions are of lingering runs, and none had an effect. -/
structure Idle (T : RunStore) (l : Ledger) : Prop where
  removed : l.removed = []
  cancelled : ∀ i ∈ l.cancelled, T.Lingers i
  actions : ∀ a ∈ l.actions, a.kind = .cancel ∧ a.outcome = .noop ∧ T.Lingers a.runId

theorem Idle.empty : T.Idle {} where
  removed := rfl
  cancelled := by simp
  actions := by simp

theorem Idle.after (h : T.Idle l) : T.after l = T := by
  refine eq_of_runs ?_ rfl
  have hleft : T.left l = T.runs := by simp [left, h.removed]
  have hunder : ∀ r ∈ T.runs, r.under l = r := by
    intro r hr
    by_cases hcancelled : r.id ∈ l.cancelled
    · obtain ⟨x, hx, hid, hinactive, -⟩ := h.cancelled _ hcancelled
      rw [eq_of_id hx hr hid] at hinactive
      exact WorkflowRun.under_of_inactive hinactive
    · exact WorkflowRun.under_of_not_mem hcancelled
  rw [after_runs, hleft, List.map_congr_left hunder, List.map_id']

theorem Idle.obey (h : T.Idle l) (hkind : o.kind = .cancel) (hlingers : T.Lingers o.run.id) :
    T.Idle (T.obey l o) := by
  unfold RunStore.obey
  split
  · exact h
  · obtain ⟨x, hx, hid, hinactive, -⟩ := id hlingers
    have houtcome : T.outcome o = .noop := outcome_of_inactive hkind hx hid hinactive
    constructor
    · rw [Ledger.removed_record_cancel hkind, h.removed]
    · intro i hi
      rcases Ledger.mem_cancelled_record.mp hi with hi | ⟨-, -, rfl⟩
      · exact h.cancelled i hi
      · exact hlingers
    · intro a ha
      rcases Ledger.mem_actions_record.mp ha with ha | rfl
      · exact h.actions a ha
      · exact ⟨hkind, houtcome, hlingers⟩

theorem Idle.obeyAll (h : T.Idle l) (hos : ∀ o ∈ os, o.kind = .cancel ∧ T.Lingers o.run.id) :
    T.Idle (T.obeyAll l os) := by
  induction os generalizing l with
  | nil => exact h
  | cons o os ih =>
    obtain ⟨hkind, hlingers⟩ := hos o (by simp)
    exact ih (h.obey hkind hlingers) fun o' ho' => hos o' (by simp [ho'])

/-! ## A pass over a settled store -/

theorem Idle.dedupe (hsettled : T.Settled settings now branches) (hf : DedupeFilter branches f)
    (h : T.Idle l) : T.Idle (T.dedupe f l) := by
  have hqueued : f.status = some "queued" := by
    rcases hf with rfl | ⟨b, -, rfl⟩ <;> rfl
  unfold RunStore.dedupe
  rw [h.after]
  refine h.obeyAll fun o ho => ?_
  obtain ⟨r, hr, rfl⟩ := List.mem_map.mp ho
  exact ⟨rfl, lingers_of_listed (mem_of_mem_duplicateRuns hr) hqueued (hsettled.duplicates f hf r hr)⟩

theorem Idle.dedupeAll (hsettled : T.Settled settings now branches) {bs : List Branch}
    (hbs : ∀ b ∈ bs, b ∈ branches) (h : T.Idle l) : T.Idle (T.dedupeAll l bs) := by
  induction bs generalizing l with
  | nil => exact h
  | cons b bs ih =>
    have hfirst := h.dedupe hsettled (.inr ⟨b, hbs b (by simp), rfl⟩)
    exact ih (fun b' hb' => hbs b' (by simp [hb'])) hfirst

theorem scan_of_settled (hsettled : T.Settled settings now branches) (h : T.Idle l) (count : Nat) :
    T.scan settings now count l = l := by
  induction count with
  | zero => rfl
  | succ page ih =>
    have hnone : ((T.after l).block (page + 1)).flatMap (Order.ofExpiry settings now) = [] := by
      rw [h.after]
      refine List.flatMap_eq_nil_iff.mpr fun r hr => ?_
      exact hsettled.unexpired r (List.mem_of_mem_drop (List.mem_of_mem_take hr))
    rw [scan, hnone]
    exact ih

theorem sweep_of_settled (hsettled : T.Settled settings now branches) (h : T.Idle l) : T.sweep l = l := by
  rw [sweep, h.after, hsettled.cancelled]
  rfl

theorem prune_of_settled (hsettled : T.Settled settings now branches) (h : T.Idle l) :
    T.prune settings l = l := by
  rw [prune, h.after, List.flatMap_eq_nil_iff.mpr hsettled.pruned]
  rfl

/-- A pass over a settled store is idle. -/
theorem idle_pass (hsettled : T.Settled settings now branches) : T.Idle (T.pass settings now branches) := by
  have hbranches : T.Idle (T.dedupeAll {} branches) := Idle.empty.dedupeAll hsettled fun _ hb => hb
  have hcleared : T.Idle (T.cleared branches) := by
    unfold cleared queued
    rw [hbranches.after, hsettled.orphans]
    exact hbranches.dedupe hsettled (.inl rfl)
  have hpurged : T.purged settings now branches = T.cleared branches := scan_of_settled hsettled hcleared _
  unfold pass
  rw [hpurged, sweep_of_settled hsettled hcleared, prune_of_settled hsettled hcleared]
  exact hcleared

end RunStore

namespace Governor

variable {σ : Type}

theorem exists_reported {calls : List Call} {actions : List Action}
    (h : List.Forall₂ Call.Reported calls actions) {c : Call} (hc : c ∈ calls) :
    ∃ a ∈ actions, c.Reported a := by
  induction h with
  | nil => simp at hc
  | cons hfirst _ ih =>
    rcases List.mem_cons.mp hc with rfl | hc
    · exact ⟨_, by simp, hfirst⟩
    · obtain ⟨a, ha, hreported⟩ := ih hc
      exact ⟨a, by simp [ha], hreported⟩

/-- **A second pass changes nothing.** Let a host have a store that the retention scan covers, with runs whose
retention periods the calendar can tell. After one pass a second one leaves the store as it is. It asks for
nothing but the cancellation of lingering runs, and each time in vain; if no run lingers, it asks for nothing at
all. -/
theorem second_pass_idle (g : Governor σ) (store : σ → RunStore) (now : Stamp)
    (hstores : g.host.Stores store) (hclock : Act.Sees store g.clock fun _ => now)
    (hreal : g.rehearsal = false) (branches : List Branch) (s s' : Scope) (d : Desk σ)
    (hcount : ((store d.world).runs.length : Int) ≤ 100 * g.settings.retentionPageCount)
    (hdates : ∀ r ∈ (store d.world).runs, r.Datable g.settings) :
    ∃ report d', g.runPass branches s d = (.ok report, d') ∧
      ∃ report' d'', g.runPass branches s' d' = (.ok report', d'') ∧
        store d''.world = store d'.world ∧
        (∀ a ∈ report'.actions, a.kind = .cancel ∧ a.outcome = .noop ∧
          (store d'.world).Lingers a.runId) ∧
        (∀ c ∈ g.calls branches s' d', c.kind = .cancel ∧ (store d'.world).Lingers c.run.id) ∧
        ((∀ i, ¬(store d.world).Lingers i) →
          report'.actions = [] ∧ g.calls branches s' d' = []) := by
  obtain ⟨d', hfirst, hstore⟩ := runPass_gives hstores hclock hreal hdates branches s d rfl
  generalize hS : store d.world = S at hcount hdates hfirst hstore ⊢
  have hsettled : (S.after (S.pass g.settings now branches)).Settled g.settings now branches :=
    RunStore.settled_after_pass (by omega)
  have hleft : (S.after (S.pass g.settings now branches)).runs ⊆ S.runs := by
    rw [RunStore.after_of_swept RunStore.swept_pass]
    exact fun r hr => (RunStore.mem_left.mp hr).1
  generalize S.after (S.pass g.settings now branches) = T at hsettled hleft hstore
  subst hstore
  have hidle := RunStore.idle_pass hsettled
  obtain ⟨d'', hsecond, hstore'⟩ :=
    runPass_gives hstores hclock hreal (fun r hr => hdates r (hleft hr)) branches s' d' rfl
  have hreported := calls_reported hreal (congrArg Prod.fst hsecond)
  have hcalls : ∀ c ∈ g.calls branches s' d',
      c.kind = .cancel ∧ (store d'.world).Lingers c.run.id := by
    intro c hc
    obtain ⟨a, ha, hcall⟩ := exists_reported hreported hc
    obtain ⟨hkind, -, hlingers⟩ := hidle.actions a ha
    exact ⟨hcall.kind ▸ hkind, hcall.runId ▸ hlingers⟩
  refine ⟨_, d', hfirst, _, d'', hsecond, hstore'.trans hidle.after, hidle.actions, hcalls, fun hnone => ?_⟩
  have hempty : ((store d'.world).pass g.settings now branches).report.actions = [] := by
    refine List.eq_nil_iff_forall_not_mem.mpr fun a ha => ?_
    obtain ⟨r, hr, hlingers⟩ := (hidle.actions a ha).2.2
    exact hnone _ ⟨r, hleft hr, hlingers⟩
  rw [hempty] at hreported
  exact ⟨hempty, List.forall₂_nil_right_iff.mp hreported⟩

/-- A store with a duplicate on a branch, a queued run whose pull request is gone, and a run of long ago. -/
def crowdedDesk : Desk RunStore :=
  ⟨⟨[{ RunStore.queuedRun 4 "main" "push" with updatedAt := RunStore.march },
      { RunStore.queuedRun 3 "main" "push" with updatedAt := RunStore.march },
      { RunStore.queuedRun 2 "gone" pullRequestEvent with updatedAt := RunStore.march },
      RunStore.queuedRun 1 "dev" "push"], [], by decide⟩, #[]⟩

theorem second_pass_idle_crowded :
    ∃ report d', (RunStore.governor RunStore.answer RunStore.march).runPass [⟨"main", ""⟩] {} crowdedDesk
        = (.ok report, d') ∧ report.actions.length = 6 ∧
      ∃ report' d'', (RunStore.governor RunStore.answer RunStore.march).runPass [⟨"main", ""⟩] {} d'
        = (.ok report', d'') ∧ d''.world = d'.world ∧ report'.actions = [] ∧
        (RunStore.governor RunStore.answer RunStore.march).calls [⟨"main", ""⟩] {} d' = [] := by
  have hclock : Act.Sees id (RunStore.governor RunStore.answer RunStore.march).clock
      fun _ => RunStore.march := fun _ d => ⟨d, rfl, rfl⟩
  have hunlisted : ∀ r ∈ crowdedDesk.world.runs, r.conclusion = none := by decide
  obtain ⟨report, d', hfirst, report', d'', hsecond, hstore, -, -, hidle⟩ :=
    second_pass_idle (RunStore.governor RunStore.answer RunStore.march) id RunStore.march
      RunStore.host_stores hclock rfl [⟨"main", ""⟩] {} {} crowdedDesk (by decide) (by decide +kernel)
  have hlength : (RunStore.governor RunStore.answer RunStore.march).runPass [⟨"main", ""⟩] {} crowdedDesk
      |>.1.toOption.any fun report => report.actions.length == 6 := by
    decide +kernel
  rw [hfirst] at hlength
  obtain ⟨hactions, hcalls⟩ := hidle fun i ⟨r, hr, _, _, hqueued⟩ => by simp [hunlisted r hr] at hqueued
  exact ⟨report, d', hfirst, by simpa [Except.toOption] using hlength,
    report', d'', hsecond, hstore, hactions, hcalls⟩

/-- Two runs of a branch that are over, with a conclusion that reads as if they were queued. -/
def lingeringDesk : Desk RunStore :=
  ⟨⟨[{ RunStore.queuedRun 2 "main" "push" with status := "completed", conclusion := some "queued" },
      { RunStore.queuedRun 1 "main" "push" with status := "completed", conclusion := some "queued" }],
    [], by decide⟩, #[]⟩

/-- A second pass need not be silent: it asks again for the cancellation of a run that lingers. -/
theorem second_pass_asks_again :
    (RunStore.host RunStore.answer).Stores id ∧
      (lingeringDesk.world.runs.length : Int)
        ≤ 100 * (RunStore.governor RunStore.answer default).settings.retentionPageCount ∧
      (∀ r ∈ lingeringDesk.world.runs, r.Datable (RunStore.governor RunStore.answer default).settings) ∧
      ∃ report d', (RunStore.governor RunStore.answer default).runPass [⟨"main", ""⟩] {} lingeringDesk
          = (.ok report, d') ∧
        ((RunStore.governor RunStore.answer default).calls [⟨"main", ""⟩] {} d').map
          (fun c => (c.kind, c.run.id)) = [(.cancel, 1)] := by
  have hdates : ∀ r ∈ lingeringDesk.world.runs,
      r.Datable (RunStore.governor RunStore.answer default).settings := by
    decide +kernel
  have hclock : Act.Sees id (RunStore.governor RunStore.answer default).clock fun _ => default :=
    fun _ d => ⟨d, rfl, rfl⟩
  obtain ⟨d', hfirst, -⟩ :=
    runPass_gives RunStore.host_stores hclock rfl hdates [⟨"main", ""⟩] {} lingeringDesk rfl
  have hasked : ((RunStore.governor RunStore.answer default).calls [⟨"main", ""⟩] {}
      ((RunStore.governor RunStore.answer default).runPass [⟨"main", ""⟩] {} lingeringDesk).2).map
        (fun c => (c.kind, c.run.id)) = [(.cancel, 1)] := by
    decide +kernel
  rw [hfirst] at hasked
  exact ⟨RunStore.host_stores, by decide, hdates, _, d', hfirst, hasked⟩

end Governor

end RunSteward
