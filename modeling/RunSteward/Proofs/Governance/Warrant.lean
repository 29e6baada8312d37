import RunSteward.Proofs.Governance.Deeds
import RunSteward.Proofs.Governance.Duplicates
import RunSteward.Proofs.Governance.Findings
import RunSteward.Proofs.Governance.RunStore

/-!
# Warrants

A pass acts on a run only upon evidence: a listing of which it has seen every page, and in which the rule of
its policy holds (`Warranted`). Whatever is refused on the way, no action rests on half a listing
(`runPass_warranted`).
-/

namespace RunSteward

/-- Lookups show a whole listing: its pages are among them one after another, and none was refused. -/
def Shows (lookups : List Lookup) (listing : Listing) (items : List listing.Item) : Prop :=
  ∃ walk, Walk listing none walk items none ∧ walk <:+: lookups

/-- An action that lookups give a reason for, under the rule of its policy. A run is cancelled before it is
removed only if the listing has it as active. -/
inductive Warranted (settings : GovernanceSettings) (branches : List Branch) (lookups : List Lookup) :
    Action → Prop where
  /-- A queued run of a branch or of pull requests is cancelled if the listing has another one of the same
  branch and workflow with a number at least as high. -/
  | duplicateQueued {filter : RunFilter} {runs : List WorkflowRun} {r q : WorkflowRun}
      (hfilter : filter = .queuedOfPulls ∨ ∃ b ∈ branches, filter = .queuedOn b)
      (hlisted : Shows lookups (.runs filter) runs) (hr : r ∈ runs) (hq : q ∈ runs.erase r)
      (hbranch : q.headBranch = r.headBranch) (hname : q.name = r.name)
      (hnumber : r.runNumber ≤ q.runNumber) (outcome : ActionOutcome) :
      Warranted settings branches lookups
        (Order.action ⟨.duplicateQueued, .cancel, .superseded, r⟩ outcome)
  /-- A queued run of pull requests is cleared if no open one has its branch as head. -/
  | orphanedPullRequest {runs : List WorkflowRun} {pulls : List PullRequest} {r : WorkflowRun}
      {kind : ActionKind}
      (hlisted : Shows lookups (.runs .queuedOfPulls) runs) (hr : r ∈ runs)
      (hpulls : Shows lookups .pullRequests pulls) (habsent : ∀ p ∈ pulls, p.headRef ≠ r.headBranch)
      (hkind : kind = .cancel → r.isActive = true) (outcome : ActionOutcome) :
      Warranted settings branches lookups
        (Order.action ⟨.orphanedPullRequest, kind, .noOpenPullRequest, r⟩ outcome)
  /-- A run on a page within the retention scan is cleared if it had expired when the clock was read. -/
  | retention {number : Int} {runs : List WorkflowRun} {now : Stamp} {reason : Reason} {r : WorkflowRun}
      {kind : ActionKind}
      (hnumber : 1 ≤ number ∧ number ≤ settings.retentionPageCount)
      (hpage : .runsPage number 100 (.ok runs) ∈ lookups) (hr : r ∈ runs)
      (hclock : .clock (.ok now) ∈ lookups) (hexpired : r.expiry settings now = .ok (some reason))
      (hkind : kind = .cancel → r.isActive = true) (outcome : ActionOutcome) :
      Warranted settings branches lookups (Order.action ⟨.retention, kind, reason, r⟩ outcome)
  /-- A cancelled run is removed. -/
  | cancelledSweep {runs : List WorkflowRun} {r : WorkflowRun}
      (hlisted : Shows lookups (.runs .cancelled) runs) (hr : r ∈ runs) (outcome : ActionOutcome) :
      Warranted settings branches lookups
        (Order.action ⟨.cancelledSweep, .remove, .cancelled, r⟩ outcome)
  /-- A run of pull requests is cleared if no open one has its branch as head. -/
  | pullRequestGone {runs : List WorkflowRun} {pulls : List PullRequest} {r : WorkflowRun}
      {kind : ActionKind}
      (hlisted : Shows lookups (.runs .ofPulls) runs) (hr : r ∈ runs)
      (hpulls : Shows lookups .pullRequests pulls) (habsent : ∀ p ∈ pulls, p.headRef ≠ r.headBranch)
      (hkind : kind = .cancel → r.isActive = true) (outcome : ActionOutcome) :
      Warranted settings branches lookups
        (Order.action ⟨.pullRequestPruning, kind, .noOpenPullRequest, r⟩ outcome)
  /-- A run of pull requests is cleared if the first open one that has its branch as head comes from nobody
  trusted and does not carry the label. -/
  | pullRequestUnvouched {runs : List WorkflowRun} {before after : List PullRequest} {p : PullRequest}
      {r : WorkflowRun} {kind : ActionKind}
      (hlisted : Shows lookups (.runs .ofPulls) runs) (hr : r ∈ runs)
      (hpulls : Shows lookups .pullRequests (before ++ p :: after))
      (hfirst : ∀ p' ∈ before, p'.headRef ≠ r.headBranch) (hhead : p.headRef = r.headBranch)
      (huntrusted : settings.isTrusted p.authorLogin = false)
      (hunlabelled : p.hasLabel settings.ciLabel = false)
      (hkind : kind = .cancel → r.isActive = true) (outcome : ActionOutcome) :
      Warranted settings branches lookups
        (Order.action ⟨.pullRequestPruning, kind, .untrustedWithoutLabel, r⟩ outcome)

theorem Obeyed.mem_actions {rehearsal : Bool} {l l' : Ledger} {os : List Order} {calls : List Call}
    (h : Obeyed rehearsal l os l' calls) {a : Action} (ha : a ∈ l'.actions) :
    a ∈ l.actions ∨ ∃ o ∈ os, ∃ outcome, a = o.action outcome := by
  obtain ⟨deeds, hcarried⟩ := h.carried
  rw [hcarried.actions, List.mem_append, List.mem_map] at ha
  rcases ha with hold | ⟨x, hx, rfl⟩
  · exact .inl hold
  · exact .inr ⟨x.order, hcarried.order_mem hx, x.outcome, rfl⟩

/-! ## What the lookups of a survey show -/

namespace Found

variable {listing : Listing} {f : Found listing} {lookups : List Lookup}

theorem shows_work {x : listing.Item} (hx : x ∈ f.work) (hpart : f.lookups <:+: lookups) :
    Shows lookups listing f.work :=
  ⟨f.lookups, f.walk_of_mem_work hx, hpart⟩

theorem shows_all {items : List listing.Item} (hall : f.all? = some items)
    (hpart : f.lookups <:+: lookups) : Shows lookups listing items :=
  ⟨f.lookups, f.walk_of_all? hall, hpart⟩

end Found

namespace Survey

variable {settings : GovernanceSettings} {branches : List Branch} (v : Survey settings branches)

theorem onBranches_infix {f : (b : Branch) × Found (.runs (.queuedOn b))} (hf : f ∈ v.onBranches) :
    f.2.lookups <:+: v.lookups := by
  have hpart : f.2.lookups <:+: v.onBranches.flatMap fun b => b.2.lookups := by
    rw [List.flatMap_def]
    exact List.infix_of_mem_flatten (List.mem_map_of_mem hf)
  exact hpart.trans (List.infix_of_mem_flatten (by simp))

theorem queued_infix : v.queued.lookups <:+: v.lookups :=
  List.infix_of_mem_flatten (by simp)

theorem pulls_infix : v.pulls.lookups <:+: v.lookups :=
  List.infix_of_mem_flatten (by simp)

theorem cancelled_infix : v.cancelled.lookups <:+: v.lookups :=
  List.infix_of_mem_flatten (by simp)

theorem prunable_infix {f : Found (.runs .ofPulls)} (hf : v.prunable = some f) :
    f.lookups <:+: v.lookups :=
  List.infix_of_mem_flatten (by simp [hf])

theorem clock_mem : .clock (.ok v.now) ∈ v.lookups := by
  simp [lookups]

theorem page_mem {p : Scan} (hp : p ∈ v.pages) : p.lookup ∈ v.lookups := by
  simp only [lookups, List.mem_flatten]
  exact ⟨v.pages.map Scan.lookup, by simp, List.mem_map_of_mem hp⟩

theorem number_of_mem {p : Scan} (hp : p ∈ v.pages) :
    1 ≤ p.number ∧ p.number ≤ settings.retentionPageCount := by
  have hnumber : p.number ∈ pagesDown settings.retentionPageCount.toNat := by
    rw [← v.pages_number]
    exact List.mem_map_of_mem hp
  rw [mem_pagesDown] at hnumber
  omega

/-! ## Every order is warranted -/

theorem warranted_duplicate {f : RunFilter} {found : Found (.runs f)}
    (hfilter : f = .queuedOfPulls ∨ ∃ b ∈ branches, f = .queuedOn b)
    (hpart : found.lookups <:+: v.lookups) {o : Order} (ho : o ∈ Order.ofDuplicates found.work)
    (outcome : ActionOutcome) : Warranted settings branches v.lookups (o.action outcome) := by
  obtain ⟨r, hr, rfl⟩ := List.mem_map.mp ho
  have hmem := mem_of_mem_duplicateRuns hr
  obtain ⟨q, hq, hgroup, hnumber⟩ := beaten_of_mem_duplicateRuns hr
  obtain ⟨hbranch, hname⟩ := WorkflowRun.sameGroup_iff.mp hgroup
  exact .duplicateQueued hfilter (Found.shows_work hmem hpart) hmem hq hbranch.symm hname.symm hnumber outcome

theorem warranted_orphan {pulls : List PullRequest} (hpulls : v.pulls.all? = some pulls) {o : Order}
    (ho : o ∈ Order.ofOrphans v.queued.work pulls) (outcome : ActionOutcome) :
    Warranted settings branches v.lookups (o.action outcome) := by
  obtain ⟨r, hr, ho⟩ := List.mem_flatMap.mp ho
  split at ho
  · simp at ho
  · rename_i habsent
    obtain ⟨p, k, c, q⟩ := o
    obtain ⟨rfl, rfl, rfl, hkind⟩ := Order.mem_clearing.mp ho
    refine .orphanedPullRequest (Found.shows_work hr v.queued_infix) hr
      (Found.shows_all hpulls v.pulls_infix) ?_ hkind outcome
    simpa using habsent

theorem warranted_expiry {p : Scan} (hp : p ∈ v.pages) {r : WorkflowRun} (hr : r ∈ p.work) {o : Order}
    (ho : o ∈ Order.ofExpiry settings v.now r) (outcome : ActionOutcome) :
    Warranted settings branches v.lookups (o.action outcome) := by
  unfold Order.ofExpiry at ho
  split at ho
  · rename_i reason hexpired
    obtain ⟨p, k, c, q⟩ := o
    obtain ⟨rfl, rfl, rfl, hkind⟩ := Order.mem_clearing.mp ho
    have hpage := v.page_mem hp
    rw [Scan.lookup_of_mem_work hr] at hpage
    exact .retention (v.number_of_mem hp) hpage hr v.clock_mem hexpired hkind outcome
  · simp at ho

theorem warranted_cancelled {o : Order} (ho : o ∈ Order.ofCancelled v.cancelled.work)
    (outcome : ActionOutcome) : Warranted settings branches v.lookups (o.action outcome) := by
  obtain ⟨r, hr, rfl⟩ := List.mem_map.mp ho
  exact .cancelledSweep (Found.shows_work hr v.cancelled_infix) hr outcome

theorem warranted_pruning {pulls : List PullRequest} (hpulls : v.pulls.all? = some pulls)
    {f : Found (.runs .ofPulls)} (hf : v.prunable = some f) {r : WorkflowRun} (hr : r ∈ f.work) {o : Order}
    (ho : o ∈ Order.ofPruning settings pulls r) (outcome : ActionOutcome) :
    Warranted settings branches v.lookups (o.action outcome) := by
  have hlisted := Found.shows_work hr (v.prunable_infix hf)
  have hshown := Found.shows_all hpulls v.pulls_infix
  obtain ⟨p, k, c, q⟩ := o
  unfold Order.ofPruning at ho
  split at ho
  · rename_i hnone
    obtain ⟨rfl, rfl, rfl, hkind⟩ := Order.mem_clearing.mp ho
    refine .pullRequestGone hlisted hr hshown (fun p hp => ?_) hkind outcome
    simpa using List.find?_eq_none.mp hnone p hp
  · rename_i p hsome
    obtain ⟨hhead, before, after, rfl, hbefore⟩ := List.find?_eq_some_iff_append.mp hsome
    split at ho
    · simp at ho
    · rename_i hvouched
      obtain ⟨huntrusted, hunlabelled⟩ := by simpa using hvouched
      obtain ⟨rfl, rfl, rfl, hkind⟩ := Order.mem_clearing.mp ho
      refine .pullRequestUnvouched hlisted hr hshown (fun p hp => ?_) (by simpa using hhead) huntrusted
        hunlabelled hkind outcome
      simpa using hbefore p hp

theorem warranted {o : Order} (ho : o ∈ v.orders) (outcome : ActionOutcome) :
    Warranted settings branches v.lookups (o.action outcome) := by
  simp only [orders, List.mem_flatten, List.mem_cons, List.not_mem_nil, or_false, exists_eq_or_imp,
    exists_eq_left] at ho
  rcases ho with ho | ho | ho | ho | ho | ho
  · obtain ⟨f, hf, ho⟩ := List.mem_flatMap.mp ho
    have hbranch : f.1 ∈ branches := by
      rw [← v.onBranches_fst]
      exact List.mem_map_of_mem hf
    exact v.warranted_duplicate (.inr ⟨f.1, hbranch, rfl⟩) (v.onBranches_infix hf) ho outcome
  · exact v.warranted_duplicate (.inl rfl) v.queued_infix ho outcome
  · rcases hall : v.pulls.all? with _ | pulls
    · simp [hall] at ho
    · exact v.warranted_orphan hall (by simpa [hall] using ho) outcome
  · obtain ⟨p, hp, ho⟩ := List.mem_flatMap.mp ho
    obtain ⟨r, hr, ho⟩ := List.mem_flatMap.mp ho
    exact v.warranted_expiry hp hr ho outcome
  · exact v.warranted_cancelled ho outcome
  · rcases hall : v.pulls.all? with _ | pulls
    · simp [hall] at ho
    · rcases hprunable : v.prunable with _ | f
      · simp [hall, hprunable] at ho
      · obtain ⟨r, hr, ho⟩ := List.mem_flatMap.mp (by simpa [hall, hprunable] using ho)
        exact v.warranted_pruning hall hprunable hr ho outcome

end Survey

namespace Governor

/-- A store with a duplicate on a branch, a queued run whose pull request is gone, and a run of a pull
request that nobody vouches for. -/
def mixedDesk : Desk RunStore :=
  ⟨{ runs := [RunStore.queuedRun 5 "main" "push", RunStore.queuedRun 4 "main" "push",
      RunStore.queuedRun 3 "gone" pullRequestEvent,
      { RunStore.queuedRun 2 "fork" pullRequestEvent with status := "completed" }]
     pulls := [{ number := 1, authorLogin := "mallory", headRef := "fork" }]
     ids_nodup := by decide }, #[]⟩

def mixedReport : Report :=
  ⟨[⟨.duplicateQueued, .cancel, 4, "build", "main", "superseded_by_newer_run", .done⟩,
    ⟨.orphanedPullRequest, .cancel, 3, "build", "gone", "no_open_pull_request", .done⟩,
    ⟨.orphanedPullRequest, .remove, 3, "build", "gone", "no_open_pull_request", .done⟩,
    ⟨.cancelledSweep, .remove, 4, "build", "main", "cancelled", .done⟩,
    ⟨.pullRequestPruning, .remove, 2, "build", "fork", "untrusted_without_ci_label", .done⟩]⟩

end Governor

end RunSteward
