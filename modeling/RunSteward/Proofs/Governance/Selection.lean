import RunSteward.Proofs.Governance.Survey

/-!
# What a policy selects

Which runs a policy selects is told in the terms of its own rule (`Survey.Selects`): a duplicate in a listing, a run
whose branch is no head of an open pull request, an expired run, a cancelled one, and a run that no pull request
vouches for. The orders of a survey are for the selected runs and for no others (`Survey.selects_of_mem_orders`), and
each of them has the order that its policy is about (`Survey.Selects.cancel_mem`, `Survey.Selects.remove_mem`).
-/

namespace RunSteward

namespace Survey

variable {settings : GovernanceSettings} {branches : List Branch} (v : Survey settings branches)
  {r : WorkflowRun} {o : Order} {policy : Policy}

/-! ## Selected runs -/

/-- The runs that a policy selects. -/
inductive Selects : Policy → WorkflowRun → Prop where
  | duplicateOnBranch {f : (b : Branch) × Found (.runs (.queuedOn b))} {r : WorkflowRun} (hf : f ∈ v.onBranches)
      (hr : r ∈ duplicateRuns f.2.work) : Selects .duplicateQueued r
  | duplicateOfPulls {r : WorkflowRun} (hr : r ∈ duplicateRuns v.queued.work) : Selects .duplicateQueued r
  | orphan {pulls : List PullRequest} {r : WorkflowRun} (hpulls : v.pulls.all? = some pulls)
      (hr : r ∈ v.queued.work) (habsent : ∀ p ∈ pulls, p.headRef ≠ r.headBranch) : Selects .orphanedPullRequest r
  | expired {p : Scan} {r : WorkflowRun} {reason : Reason} (hp : p ∈ v.pages) (hr : r ∈ p.work)
      (hexpired : r.expiry settings v.now = .ok (some reason)) : Selects .retention r
  | cancelled {r : WorkflowRun} (hr : r ∈ v.cancelled.work) : Selects .cancelledSweep r
  /-- The first open pull request that has the branch of the run as head does not vouch for it, or there is none. -/
  | unvouched {pulls : List PullRequest} {f : Found (.runs .ofPulls)} {r : WorkflowRun}
      (hpulls : v.pulls.all? = some pulls) (hf : v.prunable = some f) (hr : r ∈ f.work)
      (hfirst : ∀ p, (pulls.find? fun p => p.headRef == r.headBranch) = some p → settings.vouches p = false) :
      Selects .pullRequestPruning r

/-- The orders of the first policy, which cancels, and of the other ones, which remove. -/
def cancelling : List Order :=
  (v.onBranches.flatMap fun b => Order.ofDuplicates b.2.work) ++ Order.ofDuplicates v.queued.work

def removing : List Order :=
  [(v.pulls.all?.map (Order.ofOrphans v.queued.work)).getD [],
    v.pages.flatMap fun p => p.work.flatMap (Order.ofExpiry settings v.now),
    Order.ofCancelled v.cancelled.work,
    (v.pulls.all?.map fun pulls =>
      ((v.prunable.map Found.work).getD []).flatMap (Order.ofPruning settings pulls)).getD []].flatten

theorem orders_eq : v.orders = v.cancelling ++ v.removing := by
  simp [orders, cancelling, removing]

variable {v}

theorem kind_of_mem_cancelling (ho : o ∈ v.cancelling) : o.kind = .cancel := by
  rcases List.mem_append.mp ho with ho | ho
  · obtain ⟨f, -, ho⟩ := List.mem_flatMap.mp ho
    exact (Order.of_mem_ofDuplicates ho).2.1
  · exact (Order.of_mem_ofDuplicates ho).2.1

theorem mem_removing :
    o ∈ v.removing ↔ (∃ pulls, v.pulls.all? = some pulls ∧ o ∈ Order.ofOrphans v.queued.work pulls) ∨
      (∃ p ∈ v.pages, ∃ r ∈ p.work, o ∈ Order.ofExpiry settings v.now r) ∨ o ∈ Order.ofCancelled v.cancelled.work ∨
      ∃ pulls f, v.pulls.all? = some pulls ∧ v.prunable = some f ∧
        ∃ r ∈ f.work, o ∈ Order.ofPruning settings pulls r := by
  rcases hpulls : v.pulls.all? with _ | pulls <;> rcases hprunable : v.prunable with _ | f <;>
    simp [removing, hpulls, hprunable]

/-! ## Selected runs and orders -/

theorem selects_of_mem_orders (ho : o ∈ v.orders) : v.Selects o.policy o.run := by
  rw [orders_eq, List.mem_append, mem_removing] at ho
  rcases ho with ho | ⟨pulls, hpulls, ho⟩ | ⟨p, hp, r, hr, ho⟩ | ho | ⟨pulls, f, hpulls, hf, r, hr, ho⟩
  · rcases List.mem_append.mp ho with ho | ho
    · obtain ⟨f, hf, ho⟩ := List.mem_flatMap.mp ho
      obtain ⟨hpolicy, -, hrun⟩ := Order.of_mem_ofDuplicates ho
      exact hpolicy ▸ .duplicateOnBranch hf hrun
    · obtain ⟨hpolicy, -, hrun⟩ := Order.of_mem_ofDuplicates ho
      exact hpolicy ▸ .duplicateOfPulls hrun
  · obtain ⟨hpolicy, hrun, habsent⟩ := Order.of_mem_ofOrphans ho
    exact hpolicy ▸ .orphan hpulls hrun habsent
  · obtain ⟨hpolicy, rfl, reason, hexpired⟩ := Order.of_mem_ofExpiry ho
    exact hpolicy ▸ .expired hp hr hexpired
  · obtain ⟨hpolicy, -, hrun⟩ := Order.of_mem_ofCancelled ho
    exact hpolicy ▸ .cancelled hrun
  · obtain ⟨hpolicy, rfl, hfirst⟩ := Order.of_mem_ofPruning ho
    exact hpolicy ▸ .unvouched hpulls hf hr hfirst

theorem Selects.cancel_mem (h : v.Selects .duplicateQueued r) :
    ∃ o ∈ v.cancelling, o.kind = .cancel ∧ o.run = r := by
  cases h with
  | duplicateOnBranch hf hr =>
    refine ⟨⟨.duplicateQueued, .cancel, .superseded, r⟩, List.mem_append_left _ ?_, rfl, rfl⟩
    exact List.mem_flatMap.mpr ⟨_, hf, List.mem_map_of_mem hr⟩
  | duplicateOfPulls hr =>
    exact ⟨⟨.duplicateQueued, .cancel, .superseded, r⟩, List.mem_append_right _ (List.mem_map_of_mem hr), rfl, rfl⟩

theorem Selects.remove_mem (h : v.Selects policy r) (hpolicy : policy ≠ .duplicateQueued) :
    ∃ o ∈ v.removing, o.kind = .remove ∧ o.run = r := by
  cases h with
  | duplicateOnBranch => exact absurd rfl hpolicy
  | duplicateOfPulls => exact absurd rfl hpolicy
  | @orphan pulls _ hpulls hr habsent =>
    have hnone : (pulls.any fun p => p.headRef == r.headBranch) = false := by simpa using habsent
    obtain ⟨o, ho, hkind, hrun⟩ := Order.remove_mem_ofOrphans hr hnone
    exact ⟨o, mem_removing.mpr (.inl ⟨pulls, hpulls, ho⟩), hkind, hrun⟩
  | @expired p _ reason hp hr hexpired =>
    have hdue : Order.ofExpiry settings v.now r ≠ [] := fun hnil => Order.ofExpiry_eq_nil.mp hnil reason hexpired
    obtain ⟨o, ho, hkind, hrun⟩ := Order.remove_mem_ofExpiry hdue
    exact ⟨o, mem_removing.mpr (.inr (.inl ⟨p, hp, r, hr, ho⟩)), hkind, hrun⟩
  | cancelled hr =>
    refine ⟨⟨.cancelledSweep, .remove, .cancelled, r⟩, mem_removing.mpr (.inr (.inr (.inl ?_))), rfl, rfl⟩
    exact List.mem_map_of_mem hr
  | @unvouched pulls f _ hpulls hf hr hfirst =>
    have hdue : Order.ofPruning settings pulls r ≠ [] := by
      intro hnil
      obtain ⟨p, hhead, hvouches⟩ := Order.ofPruning_eq_nil.mp hnil
      simp [hfirst p hhead] at hvouches
    obtain ⟨o, ho, hkind, hrun⟩ := Order.remove_mem_ofPruning hdue
    exact ⟨o, mem_removing.mpr (.inr (.inr (.inr ⟨pulls, f, hpulls, hf, r, hr, ho⟩))), hkind, hrun⟩

end Survey

end RunSteward
