import RunSteward.Proofs.Governance.Duplicates
import RunSteward.Proofs.Governance.Ledger
import RunSteward.Proofs.Governance.Orders
import RunSteward.Proofs.Governance.RunStore
import RunSteward.Proofs.Governance.Survey

/-!
# Passes over a store

On a host with a store a pass can be computed: how the store answers an order depends on the store as it was
in the beginning, and what has become of it is a function of the ledger (`RunStore.after`). So the whole
pass is a function from the store to the ledger in the end (`RunStore.pass`), and `runPass_gives` proves that
a governor does just that.
-/

namespace RunSteward

namespace WorkflowRun

/-- A run as a ledger leaves it: an active one is over if it was cancelled. -/
def under (l : Ledger) (r : WorkflowRun) : WorkflowRun :=
  if r.id ∈ l.cancelled ∧ r.isActive = true then r.asCancelled else r

variable {l : Ledger} {r : WorkflowRun}

@[simp] theorem under_id : (r.under l).id = r.id := by
  unfold under
  split <;> rfl

@[simp] theorem under_event : (r.under l).event = r.event := by
  unfold under
  split <;> rfl

@[simp] theorem under_updatedAt : (r.under l).updatedAt = r.updatedAt := by
  unfold under
  split <;> rfl

theorem under_of_not_mem (h : r.id ∉ l.cancelled) : r.under l = r := by
  simp [under, h]

theorem under_of_inactive (h : r.isActive = false) : r.under l = r := by
  simp [under, h]

theorem under_of_cancelled (h : r.id ∈ l.cancelled) (hactive : r.isActive = true) :
    r.under l = r.asCancelled := by
  simp [under, h, hactive]

@[simp] theorem asCancelled_under : (r.under l).asCancelled = r.asCancelled := by
  unfold under
  split <;> rfl

theorem under_congr {l' : Ledger} (h : r.id ∈ l.cancelled ↔ r.id ∈ l'.cancelled) :
    r.under l = r.under l' := by
  simp only [under, h]

/-! ### Retention -/

/-- Tells whether the calendar reaches to the end of every retention period of a run. -/
def Datable (settings : GovernanceSettings) (r : WorkflowRun) : Prop :=
  ∀ days ∈ [settings.staleRunRetentionDays, settings.successRetentionDays, settings.failureRetentionDays],
    (r.updatedAt.afterDays? days).isSome = true

instance (settings : GovernanceSettings) (r : WorkflowRun) : Decidable (r.Datable settings) :=
  inferInstanceAs (Decidable (∀ days ∈
    [settings.staleRunRetentionDays, settings.successRetentionDays, settings.failureRetentionDays],
    (r.updatedAt.afterDays? days).isSome = true))

theorem isOlderThan_of_isSome {days : Int} (h : (r.updatedAt.afterDays? days).isSome = true) (now : Stamp) :
    ∃ b, r.isOlderThan days now = .ok b := by
  obtain ⟨t, ht⟩ := Option.isSome_iff_exists.mp h
  exact ⟨_, by rw [isOlderThan, ht]⟩

theorem Datable.expiry {settings : GovernanceSettings} (h : r.Datable settings) (now : Stamp) :
    ∃ x, r.expiry settings now = .ok x := by
  obtain ⟨stale, hstale⟩ := isOlderThan_of_isSome (h settings.staleRunRetentionDays (by simp)) now
  obtain ⟨old, hsuccess⟩ := isOlderThan_of_isSome (h settings.successRetentionDays (by simp)) now
  obtain ⟨old', hfailure⟩ := isOlderThan_of_isSome (h settings.failureRetentionDays (by simp)) now
  unfold WorkflowRun.expiry
  rw [hstale, hsuccess, hfailure]
  cases stale <;> cases old <;> cases old' <;> by_cases hevent : r.event = pushEvent <;>
    by_cases hdone : r.concludedSuccessfully = true <;> simp [hevent, hdone, bind, Except.bind, pure, Except.pure]

theorem under_expiry (settings : GovernanceSettings) (now : Stamp) :
    (r.under l).expiry settings now = r.expiry settings now := by
  have hdone : (r.under l).concludedSuccessfully = r.concludedSuccessfully := by
    by_cases h : r.id ∈ l.cancelled ∧ r.isActive = true
    · have hstatus : r.status ≠ "completed" := by
        intro hstatus
        simp [isActive, hstatus] at h
      simp [under, h, concludedSuccessfully, asCancelled, hstatus]
    · simp [under, h]
  have holder : ∀ days, (r.under l).isOlderThan days now = r.isOlderThan days now := by
    simp [isOlderThan]
  simp only [WorkflowRun.expiry, holder, hdone, under_event]

end WorkflowRun

namespace RunStore

variable (S : RunStore)

/-! ## The store under a ledger -/

/-- The runs that a ledger has not removed, as they were in the beginning. -/
def left (l : Ledger) : List WorkflowRun :=
  S.runs.filter fun r => r.id ∉ l.removed

/-- What has become of a store after the actions of a ledger. -/
def after (l : Ledger) : RunStore where
  runs := (S.left l).map (WorkflowRun.under l)
  pulls := S.pulls
  ids_nodup := by
    have hids : ((S.left l).map (WorkflowRun.under l)).map WorkflowRun.id
        = (S.left l).map WorkflowRun.id := by
      rw [List.map_map]
      exact List.map_congr_left fun r _ => WorkflowRun.under_id
    rw [hids]
    exact S.ids_nodup.sublist (List.filter_sublist.map _)

def Knows (i : Int) : Prop :=
  ∃ r ∈ S.runs, r.id = i

/-- The outcome of an order that is no repetition. -/
def outcome (o : Order) : ActionOutcome :=
  match o.kind with
  | .remove => .done
  | .cancel => if S.runs.any fun r => r.id == o.run.id && r.isActive then .done else .noop

/-- What an order adds to a ledger. -/
def obey (l : Ledger) (o : Order) : Ledger :=
  if l.already o.kind o.run.id then l else l.record (o.action (S.outcome o))

/-- What orders add to a ledger. -/
def obeyAll (l : Ledger) (os : List Order) : Ledger :=
  os.foldl S.obey l

variable {S} {l : Ledger} {r x : WorkflowRun} {o : Order} {a : Action} {i : Int}

@[simp] theorem after_runs : (S.after l).runs = (S.left l).map (WorkflowRun.under l) := rfl

theorem mem_left : r ∈ S.left l ↔ r ∈ S.runs ∧ r.id ∉ l.removed := by
  simp [left]

theorem knows_of_mem_after {q : WorkflowRun} (h : q ∈ (S.after l).runs) : S.Knows q.id := by
  obtain ⟨x, hx, rfl⟩ := List.mem_map.mp h
  exact ⟨x, (mem_left.mp hx).1, WorkflowRun.under_id.symm⟩

theorem expiry_after {settings : GovernanceSettings} {now : Stamp} (hdates : ∀ r ∈ S.runs, r.Datable settings)
    {q : WorkflowRun} (h : q ∈ (S.after l).runs) : ∃ x, q.expiry settings now = .ok x := by
  obtain ⟨x, hx, rfl⟩ := List.mem_map.mp h
  rw [WorkflowRun.under_expiry]
  exact (hdates x (mem_left.mp hx).1).expiry now

theorem eq_of_runs {S T : RunStore} (hruns : S.runs = T.runs) (hpulls : S.pulls = T.pulls) : S = T := by
  cases S
  cases T
  cases hruns
  cases hpulls
  rfl

@[simp] theorem after_empty : S.after {} = S := by
  refine eq_of_runs ?_ rfl
  have hleft : S.left {} = S.runs := by simp [left]
  have hunder : ∀ r ∈ S.runs, r.under {} = r := fun r _ => WorkflowRun.under_of_not_mem (by simp)
  rw [after_runs, hleft, List.map_congr_left hunder, List.map_id']

theorem outcome_of_remove (hkind : o.kind = .remove) : S.outcome o = .done := by
  simp [outcome, hkind]

theorem outcome_of_active (hkind : o.kind = .cancel) (hx : x ∈ S.runs) (hid : x.id = o.run.id)
    (hactive : x.isActive = true) : S.outcome o = .done := by
  have hany : (S.runs.any fun r => r.id == o.run.id && r.isActive) = true :=
    List.any_eq_true.mpr ⟨x, hx, by simp [hid, hactive]⟩
  simp only [outcome, hkind, if_pos hany]

theorem outcome_of_inactive (hkind : o.kind = .cancel) (hx : x ∈ S.runs) (hid : x.id = o.run.id)
    (hinactive : x.isActive = false) : S.outcome o = .noop := by
  have hany : ¬(S.runs.any fun r => r.id == o.run.id && r.isActive) = true := by
    intro hany
    obtain ⟨r, hr, hrun⟩ := List.any_eq_true.mp hany
    obtain ⟨hrid, hactive⟩ := by simpa using hrun
    obtain rfl := eq_of_id hr hx (hrid.trans hid.symm)
    simp [hinactive] at hactive
  simp only [outcome, hkind, if_neg hany]

theorem outcome_ne_failed (o : Order) : S.outcome o ≠ .failed := by
  unfold outcome
  split
  · simp
  · split <;> simp

theorem after_record_cancel (hx : x ∈ S.runs) (hactive : x.isActive = true) (hkind : a.kind = .cancel)
    (hrun : a.runId = x.id) (hdone : a.outcome ≠ .failed) :
    S.after (l.record a) = (S.after l).cancel x.id := by
  refine eq_of_runs ?_ rfl
  simp only [after_runs, cancel, List.map_map, left, Ledger.removed_record_cancel hkind]
  refine List.map_congr_left fun r hr => ?_
  by_cases hid : r.id = x.id
  · obtain rfl : r = x := eq_of_id (List.mem_filter.mp hr).1 hx hid
    have hmem : r.id ∈ (l.record a).cancelled := Ledger.mem_cancelled_record.mpr (.inr ⟨hdone, hkind, hrun⟩)
    simp [WorkflowRun.under_of_cancelled hmem hactive]
  · have hmem : r.id ∈ (l.record a).cancelled ↔ r.id ∈ l.cancelled := by
      rw [Ledger.mem_cancelled_record, hrun]
      simp [Ne.symm hid]
    simp [hid, WorkflowRun.under_congr hmem]

theorem after_record_noop (hx : x ∈ S.runs) (hinactive : x.isActive = false) (hkind : a.kind = .cancel)
    (hrun : a.runId = x.id) : S.after (l.record a) = S.after l := by
  refine eq_of_runs ?_ rfl
  simp only [after_runs, left, Ledger.removed_record_cancel hkind]
  refine List.map_congr_left fun r hr => ?_
  by_cases hid : r.id = x.id
  · obtain rfl : r = x := eq_of_id (List.mem_filter.mp hr).1 hx hid
    rw [WorkflowRun.under_of_inactive hinactive, WorkflowRun.under_of_inactive hinactive]
  · refine WorkflowRun.under_congr ?_
    rw [Ledger.mem_cancelled_record, hrun]
    simp [Ne.symm hid]

theorem after_record_remove (hkind : a.kind = .remove) (hdone : a.outcome ≠ .failed) :
    S.after (l.record a) = (S.after l).remove a.runId := by
  refine eq_of_runs ?_ rfl
  have hunder : WorkflowRun.under (l.record a) = WorkflowRun.under l := by
    funext r
    exact WorkflowRun.under_congr (by rw [Ledger.cancelled_record_remove hkind])
  simp only [after_runs, remove, hunder, left, List.filter_map, List.filter_filter]
  congr 1
  refine List.filter_congr fun r _ => ?_
  have hmem : r.id ∈ (l.record a).removed ↔ r.id ∈ l.removed ∨ r.id = a.runId := by
    rw [Ledger.mem_removed_record, eq_comm (a := r.id)]
    simp [hkind, hdone]
  rw [Bool.eq_iff_iff]
  simp only [decide_eq_true_eq, hmem, not_or, Bool.and_eq_true, Function.comp_apply, WorkflowRun.under_id,
    bne_iff_ne]
  exact and_comm

/-! ## The pass -/

variable (S) (settings : GovernanceSettings) (now : Stamp)

def dedupe (f : RunFilter) (l : Ledger) : Ledger :=
  S.obeyAll l (Order.ofDuplicates ((S.after l).listed f))

def dedupeAll (l : Ledger) (branches : List Branch) : Ledger :=
  branches.foldl (fun l b => S.dedupe (.queuedOn b) l) l

/-- The pass after the pages from a given one down to the first are scanned. -/
def scan : Nat → Ledger → Ledger
  | 0, l => l
  | page + 1, l =>
    scan page (S.obeyAll l (((S.after l).block (page + 1)).flatMap (Order.ofExpiry settings now)))

def sweep (l : Ledger) : Ledger :=
  S.obeyAll l (Order.ofCancelled ((S.after l).listed .cancelled))

def prune (l : Ledger) : Ledger :=
  S.obeyAll l (((S.after l).listed .ofPulls).flatMap (Order.ofPruning settings S.pulls))

/-- The queued runs of pull requests as the pass lists them. -/
def queued (branches : List Branch) : List WorkflowRun :=
  (S.after (S.dedupeAll {} branches)).listed .queuedOfPulls

def cleared (branches : List Branch) : Ledger :=
  S.obeyAll (S.dedupe .queuedOfPulls (S.dedupeAll {} branches))
    (Order.ofOrphans (S.queued branches) S.pulls)

def purged (branches : List Branch) : Ledger :=
  S.scan settings now settings.retentionPageCount.toNat (S.cleared branches)

/-- The ledger of a whole pass. -/
def pass (branches : List Branch) : Ledger :=
  S.prune settings (S.sweep (S.purged settings now branches))

end RunStore

/-! ## Orders on a host with a store -/

namespace Governor

open Act

variable {σ : Type} {g : Governor σ} {store : σ → RunStore} {S : RunStore} {l : Ledger}

theorem obey_of_store {s : Scope} {d d' : Desk σ} {o : Order} (answer : Except HostError Unit)
    (halready : l.already o.kind o.run.id = false) (hreal : g.rehearsal = false)
    (hrequest : g.request o.kind o.run s d = (answer.mapError Failure.host, d'))
    (houtcome : S.outcome o = outcomeOf answer)
    (hstore : store d'.world = S.after (l.record (o.action (S.outcome o)))) :
    ∃ d'', g.obey l o s d = (.ok (S.obey l o), d'') ∧ store d''.world = S.after (S.obey l o) := by
  obtain ⟨log, hobey⟩ := obey_of_answer answer halready hreal hrequest
  rw [RunStore.obey, if_neg (by simp [halready])]
  refine ⟨{ d' with log := log }, ?_, hstore⟩
  rw [houtcome]
  exact hobey

theorem obey_gives (h : g.host.Stores store) (hreal : g.rehearsal = false) {o : Order}
    (hknown : S.Knows o.run.id) :
    Gives store (S.after l) (g.obey l o) (S.obey l o) (S.after (S.obey l o)) := by
  intro s d hd
  obtain ⟨policy, kind, reason, q⟩ := o
  rcases halready : l.already kind q.id with _ | _
  · obtain ⟨x, hx, hid⟩ := hknown
    obtain ⟨hremoved, hcancelled⟩ := Ledger.already_eq_false.mp halready
    have hmem : x.under l ∈ (store d.world).runs := by
      rw [hd]
      exact List.mem_map_of_mem (RunStore.mem_left.mpr ⟨hx, hid ▸ hremoved⟩)
    have hdone := RunStore.outcome_ne_failed (S := S) ⟨policy, kind, reason, q⟩
    cases kind with
    | remove =>
      obtain ⟨d', hrequest, hstore⟩ := h.remove q s d _ hmem (WorkflowRun.under_id.trans hid)
      refine obey_of_store (.ok ()) halready hreal hrequest (RunStore.outcome_of_remove rfl) ?_
      rw [hstore, hd, RunStore.after_record_remove rfl hdone]
      rfl
    | cancel =>
      rw [WorkflowRun.under_of_not_mem (hid ▸ hcancelled rfl)] at hmem
      cases hactive : x.isActive with
      | true =>
        obtain ⟨d', hrequest, hstore⟩ := h.cancel_active q s d x hmem hid hactive
        refine obey_of_store (.ok ()) halready hreal hrequest
          (RunStore.outcome_of_active rfl hx hid hactive) ?_
        rw [hstore, hd, RunStore.after_record_cancel hx hactive rfl hid.symm hdone, hid]
      | false =>
        obtain ⟨e, d', hrequest, hconflict, hstore⟩ := h.cancel_inactive q s d x hmem hid hactive
        refine obey_of_store (.error e) halready hreal hrequest ?_ ?_
        · rw [RunStore.outcome_of_inactive rfl hx hid hactive, outcomeOf, if_pos (.inr hconflict)]
        · rw [hstore, hd, RunStore.after_record_noop hx hactive rfl hid.symm]
  · rw [RunStore.obey, if_pos halready]
    exact ⟨d, obey_of_already halready, hd⟩

theorem obeyAll_gives (h : g.host.Stores store) (hreal : g.rehearsal = false) {os : List Order}
    (hknown : ∀ o ∈ os, S.Knows o.run.id) :
    Gives store (S.after l) (g.obeyAll l os) (S.obeyAll l os) (S.after (S.obeyAll l os)) := by
  induction os generalizing l with
  | nil => exact gives_pure
  | cons o os ih =>
    rw [obeyAll_cons]
    refine Gives.bind (obey_gives h hreal (hknown o (by simp))) ?_
    exact ih fun o' ho' => hknown o' (by simp [ho'])

/-! ## Policies on a host with a store -/

theorem listRuns_gives (h : g.host.Stores store) (f : RunFilter) :
    Gives store S (g.listRuns f) (some (S.listed f)) S :=
  Gives.bind (h.listed f).gives.attempt gives_pure

theorem openPullRequests_gives (h : g.host.Stores store) :
    Gives store S g.openPullRequests (some S.pulls) S :=
  Gives.bind h.pulls.gives.attempt (Gives.bind (gives_record _ _ _) gives_pure)

theorem cancelEach_gives (h : g.host.Stores store) (hreal : g.rehearsal = false) {runs : List WorkflowRun}
    (hknown : ∀ r ∈ runs, S.Knows r.id) :
    Gives store (S.after l) (g.cancelEach l runs)
      (S.obeyAll l (runs.map fun r => ⟨.duplicateQueued, .cancel, .superseded, r⟩), .ok ())
      (S.after (S.obeyAll l (runs.map fun r => ⟨.duplicateQueued, .cancel, .superseded, r⟩))) := by
  induction runs generalizing l with
  | nil => exact gives_pure
  | cons r runs ih =>
    have hfirst := obey_gives (l := l) h hreal (o := ⟨.duplicateQueued, .cancel, .superseded, r⟩)
      (hknown r (by simp))
    exact Gives.bind hfirst.outcome (ih fun r' hr' => hknown r' (by simp [hr']))

theorem cancelDuplicates_gives (h : g.host.Stores store) (hreal : g.rehearsal = false) (f : RunFilter) :
    Gives store (S.after l) (g.cancelDuplicates f l) (S.dedupe f l, .ok ((S.after l).listed f))
      (S.after (S.dedupe f l)) := by
  refine Gives.bind (listRuns_gives h f).outcome (Gives.bind (gives_record _ _ _) ?_)
  refine Gives.bind (cancelEach_gives h hreal fun r hr => ?_) gives_pure
  exact RunStore.knows_of_mem_after (List.mem_filter.mp (mem_of_mem_duplicateRuns hr)).1

theorem cancelInBranches_gives (h : g.host.Stores store) (hreal : g.rehearsal = false)
    (branches : List Branch) :
    Gives store (S.after l) (g.cancelInBranches l branches) (S.dedupeAll l branches, .ok ())
      (S.after (S.dedupeAll l branches)) := by
  induction branches generalizing l with
  | nil => exact gives_pure
  | cons b branches ih =>
    refine Gives.bind ((cancelDuplicates_gives h hreal _).within _) ?_
    exact Gives.bind ih gives_pure

theorem cancelQueuedDuplicates_gives (h : g.host.Stores store) (hreal : g.rehearsal = false)
    (branches : List Branch) :
    Gives store S (g.cancelQueuedDuplicates branches {})
      (S.dedupe .queuedOfPulls (S.dedupeAll {} branches), S.queued branches)
      (S.after (S.dedupe .queuedOfPulls (S.dedupeAll {} branches))) := by
  have hbranches := cancelInBranches_gives (S := S) (l := {}) h hreal branches
  rw [RunStore.after_empty] at hbranches
  refine Gives.bind hbranches (Gives.bind gives_pure ?_)
  refine Gives.bind (cancelDuplicates_gives h hreal _) ?_
  exact Gives.bind gives_pure gives_pure

theorem clearOrphans_gives (h : g.host.Stores store) (hreal : g.rehearsal = false)
    {runs : List WorkflowRun} (pulls : List PullRequest) (hknown : ∀ r ∈ runs, S.Knows r.id) :
    Gives store (S.after l) (g.clearOrphans runs pulls l) (S.obeyAll l (Order.ofOrphans runs pulls))
      (S.after (S.obeyAll l (Order.ofOrphans runs pulls))) := by
  rw [clearOrphans_eq]
  exact obeyAll_gives h hreal fun o ho => hknown _ (Order.of_mem_ofOrphans ho).2.1

theorem purgePage_gives (h : g.host.Stores store) (hreal : g.rehearsal = false) (now : Stamp)
    (hdates : ∀ r ∈ S.runs, r.Datable g.settings) {page : Int} (hpage : 1 ≤ page) :
    Gives store (S.after l) (g.purgePage now l page)
      (S.obeyAll l (((S.after l).block page).flatMap (Order.ofExpiry g.settings now)))
      (S.after (S.obeyAll l (((S.after l).block page).flatMap (Order.ofExpiry g.settings now)))) := by
  have hstored : ∀ r ∈ (S.after l).block page, r ∈ (S.after l).runs := fun r hr =>
    List.mem_of_mem_drop (List.mem_of_mem_take hr)
  refine Gives.bind (h.block page hpage).gives.attempt (Gives.bind (gives_record _ _ _) ?_)
  rw [purgeAll_eq fun r hr => RunStore.expiry_after hdates (hstored r hr)]
  refine obeyAll_gives h hreal fun o ho => ?_
  obtain ⟨r, hr, ho⟩ := List.mem_flatMap.mp ho
  rw [(Order.of_mem_ofExpiry ho).2.1]
  exact RunStore.knows_of_mem_after (hstored r hr)

theorem purgeDown_gives (h : g.host.Stores store) (hreal : g.rehearsal = false) (now : Stamp)
    (hdates : ∀ r ∈ S.runs, r.Datable g.settings) (count : Nat) :
    Gives store (S.after l) (g.purgeDown now count l) (S.scan g.settings now count l)
      (S.after (S.scan g.settings now count l)) := by
  induction count generalizing l with
  | zero => exact gives_pure
  | succ page ih => exact Gives.bind (purgePage_gives h hreal now hdates (by omega)) ih

theorem sweepCancelled_gives (h : g.host.Stores store) (hreal : g.rehearsal = false) :
    Gives store (S.after l) (g.sweepCancelled l) (S.sweep l) (S.after (S.sweep l)) := by
  refine Gives.bind (listRuns_gives h _) (Gives.bind (gives_record _ _ _) ?_)
  rw [sweep_eq]
  refine obeyAll_gives h hreal fun o ho => ?_
  exact RunStore.knows_of_mem_after (List.mem_filter.mp (Order.of_mem_ofCancelled ho).2.2).1

theorem prune_gives (h : g.host.Stores store) (hreal : g.rehearsal = false) :
    Gives store (S.after l) (g.prune S.pulls l) (S.prune g.settings l)
      (S.after (S.prune g.settings l)) := by
  refine Gives.bind (listRuns_gives h _) (Gives.bind (gives_record _ _ _) ?_)
  rw [pruneAll_eq]
  refine obeyAll_gives h hreal fun o ho => ?_
  obtain ⟨r, hr, ho⟩ := List.mem_flatMap.mp ho
  rw [(Order.of_mem_ofPruning ho).2.1]
  exact RunStore.knows_of_mem_after (List.mem_filter.mp hr).1

variable {now : Stamp}

theorem runPolicies_gives (h : g.host.Stores store) (hclock : Sees store g.clock fun _ => now)
    (hreal : g.rehearsal = false) (hdates : ∀ r ∈ S.runs, r.Datable g.settings) (branches : List Branch) :
    Gives store S (g.runPolicies branches) (S.pass g.settings now branches)
      (S.after (S.pass g.settings now branches)) := by
  have hqueued : ∀ r ∈ S.queued branches, S.Knows r.id := fun r hr =>
    RunStore.knows_of_mem_after (List.mem_filter.mp hr).1
  refine Gives.bind (cancelQueuedDuplicates_gives h hreal branches) ?_
  refine Gives.bind (openPullRequests_gives h) ?_
  refine Gives.bind (clearOrphans_gives h hreal S.pulls hqueued) ?_
  refine Gives.bind (Gives.bind hclock.gives (purgeDown_gives h hreal now hdates _)) ?_
  exact Gives.bind (sweepCancelled_gives h hreal) (prune_gives h hreal)

/-- **A pass over a store can be computed**: its report and the store after it are those of the ledger that
the store itself gives. -/
theorem runPass_gives (h : g.host.Stores store) (hclock : Sees store g.clock fun _ => now)
    (hreal : g.rehearsal = false) (hdates : ∀ r ∈ S.runs, r.Datable g.settings) (branches : List Branch) :
    Gives store S (g.runPass branches) (S.pass g.settings now branches).report
      (S.after (S.pass g.settings now branches)) := by
  refine Gives.bind (gives_record _ _ _) ?_
  refine Gives.bind (runPolicies_gives h hclock hreal hdates branches) ?_
  exact Gives.bind (gives_record _ _ _) gives_pure

end Governor

end RunSteward
