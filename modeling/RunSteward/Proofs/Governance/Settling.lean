import RunSteward.Proofs.Governance.StorePass

/-!
# Settled stores

A store is settled if the policies find nothing to change in it: the duplicates that are still listed are over,
and nothing is orphaned, expired, cancelled or to be pruned (`RunStore.Settled`). One pass settles a store that
its retention scan covers (`settled_after_pass`).
-/

namespace RunSteward

/-! ## Ledgers that grow -/

/-- A ledger that has settled no more than another one. -/
structure Ledger.Below (l l' : Ledger) : Prop where
  removed : ∀ i ∈ l.removed, i ∈ l'.removed
  cancelled : ∀ i ∈ l.cancelled, i ∈ l'.cancelled

namespace Ledger

variable {l l' l'' : Ledger} {a : Action} {i : Int}

theorem Below.refl (l : Ledger) : l.Below l :=
  ⟨fun _ hi => hi, fun _ hi => hi⟩

theorem Below.trans (h : l.Below l') (h' : l'.Below l'') : l.Below l'' :=
  ⟨fun i hi => h'.removed i (h.removed i hi), fun i hi => h'.cancelled i (h.cancelled i hi)⟩

theorem below_record : l.Below (l.record a) where
  removed _ hi := mem_removed_record.mpr (.inl hi)
  cancelled _ hi := mem_cancelled_record.mpr (.inl hi)

theorem Below.already (h : l.Below l') {kind : ActionKind} (hl : l.already kind i = true) :
    l'.already kind i = true := by
  rw [already_iff] at hl ⊢
  rcases hl with hremoved | ⟨hkind, hcancelled⟩
  · exact .inl (h.removed i hremoved)
  · exact .inr ⟨hkind, h.cancelled i hcancelled⟩

theorem already_record (hdone : a.outcome ≠ .failed) : (l.record a).already a.kind a.runId = true := by
  rw [already_iff, mem_removed_record, mem_cancelled_record]
  cases hkind : a.kind with
  | remove => exact .inl (.inr ⟨hdone, rfl, rfl⟩)
  | cancel => exact .inr ⟨rfl, .inr ⟨hdone, rfl, rfl⟩⟩

end Ledger

namespace RunStore

variable {S : RunStore} {l l' : Ledger} {o : Order} {os : List Order} {x r : WorkflowRun} {i : Int}
  {f : RunFilter} {settings : GovernanceSettings} {now : Stamp} {branches : List Branch}

theorem below_obey (o : Order) : l.Below (S.obey l o) := by
  unfold obey
  split
  · exact .refl l
  · exact Ledger.below_record

theorem already_obey (o : Order) : (S.obey l o).already o.kind o.run.id = true := by
  unfold obey
  split
  · assumption
  · exact Ledger.already_record (a := o.action (S.outcome o)) (outcome_ne_failed o)

theorem below_obeyAll (os : List Order) : l.Below (S.obeyAll l os) := by
  induction os generalizing l with
  | nil => exact .refl l
  | cons o os ih => exact (below_obey o).trans ih

theorem already_obeyAll (ho : o ∈ os) : (S.obeyAll l os).already o.kind o.run.id = true := by
  induction os generalizing l with
  | nil => simp at ho
  | cons o' os ih =>
    rcases List.mem_cons.mp ho with rfl | ho
    · exact (below_obeyAll os).already (already_obey o)
    · exact ih ho

theorem removed_obeyAll (ho : o ∈ os) (hkind : o.kind = .remove) :
    o.run.id ∈ (S.obeyAll l os).removed := by
  have halready := already_obeyAll (S := S) (l := l) ho
  rw [Ledger.already_iff, hkind] at halready
  simpa using halready

theorem mem_cancelled_obeyAll (h : i ∈ (S.obeyAll l os).cancelled) :
    i ∈ l.cancelled ∨ ∃ o ∈ os, o.kind = .cancel ∧ o.run.id = i := by
  induction os generalizing l with
  | nil => exact .inl h
  | cons o os ih =>
    rcases ih h with hfirst | ⟨o', ho', hordered⟩
    · unfold obey at hfirst
      split at hfirst
      · exact .inl hfirst
      · rcases Ledger.mem_cancelled_record.mp hfirst with hold | ⟨-, hkind, hid⟩
        · exact .inl hold
        · exact .inr ⟨o, by simp, hkind, hid⟩
    · exact .inr ⟨o', by simp [ho'], hordered⟩

/-! ## The ledgers of a pass -/

theorem below_dedupe (f : RunFilter) : l.Below (S.dedupe f l) :=
  below_obeyAll _

theorem below_dedupeAll (branches : List Branch) : l.Below (S.dedupeAll l branches) := by
  induction branches generalizing l with
  | nil => exact .refl l
  | cons b branches ih => exact (below_dedupe _).trans ih

theorem below_scan (count : Nat) : l.Below (S.scan settings now count l) := by
  induction count generalizing l with
  | zero => exact .refl l
  | succ page ih => exact (below_obeyAll _).trans ih

theorem below_cleared (branches : List Branch) :
    (S.dedupe .queuedOfPulls (S.dedupeAll {} branches)).Below (S.cleared branches) :=
  below_obeyAll _

theorem below_purged : (S.cleared branches).Below (S.purged settings now branches) :=
  below_scan _

theorem below_sweep : l.Below (S.sweep l) :=
  below_obeyAll _

theorem below_prune : l.Below (S.prune settings l) :=
  below_obeyAll _

theorem purged_below_pass : (S.purged settings now branches).Below (S.pass settings now branches) :=
  below_sweep.trans below_prune

theorem left_sublist (h : l.Below l') : (S.left l').Sublist (S.left l) := by
  refine List.monotone_filter_right S.runs fun r hr => ?_
  have hkept : r.id ∉ l'.removed := by simpa using hr
  simpa using fun hremoved => hkept (h.removed _ hremoved)

/-! ## Cancelled runs are swept -/

theorem removed_sweep (hr : r ∈ (S.after l).runs) (hcancelled : RunFilter.cancelled.admits r = true) :
    r.id ∈ (S.sweep l).removed := by
  have hlisted : r ∈ (S.after l).listed .cancelled := List.mem_filter.mpr ⟨hr, hcancelled⟩
  exact removed_obeyAll (List.mem_map_of_mem hlisted) rfl

theorem cancelled_of_sweep (h : i ∈ (S.sweep l).cancelled) : i ∈ l.cancelled := by
  rcases mem_cancelled_obeyAll h with hold | ⟨o, ho, hkind, -⟩
  · exact hold
  · obtain ⟨r, -, rfl⟩ := List.mem_map.mp ho
    cases hkind

theorem removed_prune (hr : r ∈ (S.after l).runs) (hpulls : RunFilter.ofPulls.admits r = true)
    (hprune : Order.ofPruning settings S.pulls r ≠ []) : r.id ∈ (S.prune settings l).removed := by
  have hlisted : r ∈ (S.after l).listed .ofPulls := List.mem_filter.mpr ⟨hr, hpulls⟩
  obtain ⟨o, ho, hkind, hrun⟩ := Order.remove_mem_ofPruning hprune
  rw [← hrun]
  exact removed_obeyAll (List.mem_flatMap.mpr ⟨r, hlisted, ho⟩) hkind

theorem cancelled_of_prune (h : i ∈ (S.prune settings l).cancelled) :
    i ∈ l.cancelled ∨ i ∈ (S.prune settings l).removed := by
  rcases mem_cancelled_obeyAll h with hold | ⟨o, ho, -, rfl⟩
  · exact .inl hold
  · obtain ⟨r, hr, ho⟩ := List.mem_flatMap.mp ho
    obtain ⟨hlisted, hpulls⟩ := List.mem_filter.mp hr
    rw [(Order.of_mem_ofPruning ho).2.1]
    exact .inr (removed_prune hlisted hpulls (List.ne_nil_of_mem ho))

/-- A ledger under which no run is left that it ended. -/
def Swept (S : RunStore) (l : Ledger) : Prop :=
  ∀ r ∈ S.left l, r.id ∈ l.cancelled → r.isActive = false

/-- A pass leaves no run that it ended: those cancelled before the sweep are swept, and the others are removed as
soon as they are cancelled. -/
theorem swept_pass : S.Swept (S.pass settings now branches) := by
  intro r hr hcancelled
  obtain ⟨hstored, hkept⟩ := mem_left.mp hr
  by_contra hactive
  rcases cancelled_of_prune hcancelled with hbefore | hremoved
  · have hbefore := cancelled_of_sweep hbefore
    have hleft : r ∈ S.left (S.purged settings now branches) := (left_sublist purged_below_pass).mem hr
    have hafter := List.mem_map_of_mem (f := WorkflowRun.under (S.purged settings now branches)) hleft
    rw [WorkflowRun.under_of_cancelled hbefore (by simpa using hactive)] at hafter
    have hswept := removed_sweep hafter (by simp [RunFilter.admits, RunFilter.cancelled, WorkflowRun.asCancelled])
    exact hkept (below_prune.removed _ hswept)
  · exact hkept hremoved

section Swept

variable (hswept : S.Swept l')

include hswept

/-- What is left in the end was never changed. -/
theorem under_of_swept (hbelow : l.Below l') (hr : r ∈ S.left l') : r.under l = r := by
  by_cases hcancelled : r.id ∈ l.cancelled
  · exact WorkflowRun.under_of_inactive (hswept r hr (hbelow.cancelled _ hcancelled))
  · exact WorkflowRun.under_of_not_mem hcancelled

theorem after_of_swept : (S.after l').runs = S.left l' := by
  have hunder : ∀ r ∈ S.left l', r.under l' = r := fun r hr => under_of_swept hswept (.refl l') hr
  rw [after_runs, List.map_congr_left hunder, List.map_id']

theorem left_sublist_after (hbelow : l.Below l') : (S.left l').Sublist (S.after l).runs := by
  have hunder : ∀ r ∈ S.left l', r.under l = r := fun r hr => under_of_swept hswept hbelow hr
  have hsub := (left_sublist (S := S) hbelow).map (WorkflowRun.under l)
  rw [List.map_congr_left hunder, List.map_id'] at hsub
  exact hsub

end Swept

/-! ## The retention scan -/

theorem unexpired_of_block {page : Nat} (hr : r ∈ ((S.left l).drop (100 * page)).take 100)
    (hkept : r ∈ S.left (S.obeyAll l (((S.after l).block (page + 1)).flatMap (Order.ofExpiry settings now)))) :
    Order.ofExpiry settings now r = [] := by
  by_contra hexpired
  have hblock : r.under l ∈ (S.after l).block (page + 1) := by
    have hstart : (100 * ((page : Int) + 1 - 1)).toNat = 100 * page := by omega
    rw [block, after_runs, hstart, ← List.map_drop, ← List.map_take]
    exact List.mem_map_of_mem hr
  have hexpired' : Order.ofExpiry settings now (r.under l) ≠ [] := by
    rw [Ne, Order.ofExpiry_eq_nil, WorkflowRun.under_expiry, ← Order.ofExpiry_eq_nil]
    exact hexpired
  obtain ⟨o, ho, hkind, hrun⟩ := Order.remove_mem_ofExpiry hexpired'
  have hremoved := removed_obeyAll (S := S) (l := l) (List.mem_flatMap.mpr ⟨_, hblock, ho⟩) hkind
  rw [hrun, WorkflowRun.under_id] at hremoved
  exact (mem_left.mp hkept).2 hremoved

/-- The scan down from a page leaves nothing expired, if nothing expired stands behind that page. Pages may
lose runs to the front but get none from there, so what stands behind a page stood there before. -/
theorem unexpired_scan (count : Nat)
    (hbehind : ∀ r ∈ (S.left l).drop (100 * count), Order.ofExpiry settings now r = []) :
    ∀ r ∈ S.left (S.scan settings now count l), Order.ofExpiry settings now r = [] := by
  induction count generalizing l with
  | zero => simpa [scan] using hbehind
  | succ page ih =>
    refine ih fun r hr => ?_
    have hkept := List.mem_of_mem_drop hr
    have hold := ((left_sublist (below_obeyAll _)).drop (100 * page)).mem hr
    rw [← List.take_append_drop 100 ((S.left l).drop (100 * page)), List.drop_drop] at hold
    rcases List.mem_append.mp hold with hblock | hrest
    · exact unexpired_of_block hblock hkept
    · exact hbehind r hrest

theorem unexpired_pass (hcount : S.runs.length ≤ 100 * settings.retentionPageCount.toNat) :
    ∀ r ∈ S.left (S.pass settings now branches), Order.ofExpiry settings now r = [] := by
  have hnone : (S.left (S.cleared branches)).drop (100 * settings.retentionPageCount.toNat) = [] :=
    List.drop_eq_nil_of_le (Nat.le_trans (List.length_filter_le _ _) hcount)
  intro r hr
  refine unexpired_scan settings.retentionPageCount.toNat ?_ r ((left_sublist purged_below_pass).mem hr)
  simp [hnone]

/-! ## Settled stores -/

/-- The listings in which duplicates are looked for. -/
def DedupeFilter (branches : List Branch) (f : RunFilter) : Prop :=
  f = .queuedOfPulls ∨ ∃ b ∈ branches, f = .queuedOn b

/-- A store in which the policies find nothing to change. A duplicate that is over may still be listed. -/
structure Settled (T : RunStore) (settings : GovernanceSettings) (now : Stamp) (branches : List Branch) :
    Prop where
  duplicates : ∀ f, DedupeFilter branches f → ∀ r ∈ duplicateRuns (T.listed f), r.isActive = false
  orphans : Order.ofOrphans (T.listed .queuedOfPulls) T.pulls = []
  unexpired : ∀ r ∈ T.runs, Order.ofExpiry settings now r = []
  cancelled : T.listed .cancelled = []
  pruned : ∀ r ∈ T.listed .ofPulls, Order.ofPruning settings T.pulls r = []

theorem dedupe_below_dedupeAll {b : Branch} (hb : b ∈ branches) :
    ∃ l₀, (S.dedupe (.queuedOn b) l₀).Below (S.dedupeAll l branches) := by
  induction branches generalizing l with
  | nil => simp at hb
  | cons b' branches ih =>
    rcases List.mem_cons.mp hb with rfl | hb
    · exact ⟨l, below_dedupeAll branches⟩
    · exact ih hb

/-- Every listing of duplicates is worked off at some time in a pass. -/
theorem dedupe_below_pass (hf : DedupeFilter branches f) :
    ∃ l, (S.dedupe f l).Below (S.pass settings now branches) := by
  have hlater : (S.dedupe .queuedOfPulls (S.dedupeAll {} branches)).Below (S.pass settings now branches) :=
    (below_cleared branches).trans (below_purged.trans purged_below_pass)
  rcases hf with rfl | ⟨b, hb, rfl⟩
  · exact ⟨_, hlater⟩
  · obtain ⟨l, hl⟩ := dedupe_below_dedupeAll (S := S) (l := {}) hb
    exact ⟨l, hl.trans ((below_dedupe _).trans hlater)⟩

theorem dedupeAll_below_cleared (branches : List Branch) :
    (S.dedupeAll {} branches).Below (S.cleared branches) :=
  (below_dedupe _).trans (below_cleared branches)

theorem mem_after_of_pass (hbelow : l.Below (S.pass settings now branches))
    (hr : r ∈ (S.after (S.pass settings now branches)).runs) : r ∈ (S.after l).runs := by
  rw [after_of_swept swept_pass] at hr
  exact (left_sublist_after swept_pass hbelow).mem hr

theorem not_removed_of_pass (hr : r ∈ (S.after (S.pass settings now branches)).runs) :
    r.id ∉ (S.pass settings now branches).removed := by
  rw [after_of_swept swept_pass] at hr
  exact (mem_left.mp hr).2

theorem inactive_of_duplicate (hf : DedupeFilter branches f)
    (hr : r ∈ duplicateRuns ((S.after (S.pass settings now branches)).listed f)) : r.isActive = false := by
  obtain ⟨l, hl⟩ : ∃ l, (S.dedupe f l).Below (S.pass settings now branches) := dedupe_below_pass hf
  have hsub : ((S.after (S.pass settings now branches)).listed f).Sublist ((S.after l).listed f) := by
    rw [listed, after_of_swept swept_pass]
    exact (left_sublist_after swept_pass ((below_dedupe f).trans hl)).filter _
  have hbefore : r ∈ duplicateRuns ((S.after l).listed f) :=
    mem_duplicateRuns_of_sublist hsub ((S.after l).nodup_runs.filter _) hr
  have hordered : ⟨.duplicateQueued, .cancel, .superseded, r⟩ ∈ Order.ofDuplicates ((S.after l).listed f) :=
    List.mem_map_of_mem hbefore
  have hmem := (List.mem_filter.mp (mem_of_mem_duplicateRuns hr)).1
  rcases Ledger.already_iff.mp (hl.already (already_obeyAll hordered)) with hremoved | ⟨-, hcancelled⟩
  · exact absurd hremoved (not_removed_of_pass hmem)
  · rw [after_of_swept swept_pass] at hmem
    exact swept_pass r hmem hcancelled

theorem orphans_of_pass :
    Order.ofOrphans ((S.after (S.pass settings now branches)).listed .queuedOfPulls) S.pulls = [] := by
  refine List.flatMap_eq_nil_iff.mpr fun r hr => ?_
  obtain ⟨hmem, hqueued⟩ := List.mem_filter.mp hr
  rcases hany : S.pulls.any fun p => p.headRef == r.headBranch with _ | _
  · -- it was cleared when the orphans were
    have hcleared : (S.cleared branches).Below (S.pass settings now branches) :=
      below_purged.trans purged_below_pass
    have hbefore := mem_after_of_pass ((dedupeAll_below_cleared branches).trans hcleared) hmem
    have hlisted : r ∈ S.queued branches := List.mem_filter.mpr ⟨hbefore, hqueued⟩
    obtain ⟨o, ho, hkind, hrun⟩ := Order.remove_mem_ofOrphans hlisted hany
    have hremoved := hcleared.removed _ (removed_obeyAll (S := S)
      (l := S.dedupe .queuedOfPulls (S.dedupeAll {} branches)) ho hkind)
    rw [hrun] at hremoved
    exact absurd hremoved (not_removed_of_pass hmem)
  · exact if_pos rfl

/-- **One pass settles a store** that its retention scan covers. -/
theorem settled_after_pass (hcount : S.runs.length ≤ 100 * settings.retentionPageCount.toNat) :
    (S.after (S.pass settings now branches)).Settled settings now branches where
  duplicates _ hf _ hr := inactive_of_duplicate hf hr
  orphans := orphans_of_pass
  unexpired := by
    rw [after_of_swept swept_pass]
    exact unexpired_pass hcount
  cancelled := by
    refine List.eq_nil_iff_forall_not_mem.mpr fun r hr => ?_
    obtain ⟨hmem, hcancelled⟩ := List.mem_filter.mp hr
    have hswept := removed_sweep (mem_after_of_pass purged_below_pass hmem) hcancelled
    exact not_removed_of_pass hmem (below_prune.removed _ hswept)
  pruned r hr := by
    obtain ⟨hmem, hpulls⟩ := List.mem_filter.mp hr
    by_contra hprune
    exact not_removed_of_pass hmem (removed_prune (mem_after_of_pass below_prune hmem) hpulls hprune)

end RunStore

end RunSteward
