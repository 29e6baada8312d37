import RunSteward.Governance.Pass
import RunSteward.Proofs.Gateway.RepoTag

/-!
# Loyal passes

A pass over the runs of a loyal host is loyal (`Governor.runPass_loyal`): whatever the policies look up, change and log,
they do for the repository that the pass is made for. The duplicates in the branches are cancelled by the pool, which
is no exception, as every task takes the repository along.
-/

namespace RunSteward

open Act

variable {σ : Type}

namespace Governor

variable {g : Governor σ}

/-! ## Acting on a run -/

theorem request_loyal (h : g.host.Loyal) (kind : ActionKind) (r : WorkflowRun) : Loyal (g.request kind r) := by
  cases kind with
  | cancel => exact h.cancelRun r
  | remove => exact h.removeRun r

theorem mutate_loyal (h : g.host.Loyal) (kind : ActionKind) (policy : Policy) (r : WorkflowRun) :
    Loyal (g.mutate kind policy r) := by
  unfold mutate
  split
  · exact loyal_pure _
  · refine Loyal.bind (request_loyal h kind r).attempt fun answer => ?_
    split
    · exact Loyal.noted (loyal_pure _)
    · exact loyal_pure _

theorem apply_loyal (h : g.host.Loyal) (kind : ActionKind) (policy : Policy) (reason : Reason) (l : Ledger)
    (r : WorkflowRun) : Loyal (g.apply kind policy reason l r) := by
  have henact : Loyal (g.enact kind policy reason l r) := by
    unfold enact
    split
    · exact loyal_pure _
    · exact Loyal.bind (mutate_loyal h kind policy r) fun outcome => loyal_pure _
  refine Loyal.bind henact fun p => ?_
  rcases p with ⟨l, _ | a⟩
  · exact loyal_pure _
  · exact Loyal.noted (loyal_pure _)

theorem cancelThenRemove_loyal (h : g.host.Loyal) (policy : Policy) (reason : Reason) (l : Ledger) (r : WorkflowRun) :
    Loyal (g.cancelThenRemove policy reason l r) := by
  have hremove : ∀ l, Loyal (g.apply .remove policy reason l r) := fun l => apply_loyal h _ _ _ l r
  unfold cancelThenRemove
  split
  · exact Loyal.bind (apply_loyal h _ _ _ l r) hremove
  · exact Loyal.bind (loyal_pure l) hremove

/-! ## Listings -/

theorem listRuns_loyal (h : g.host.Loyal) (filter : RunFilter) : Loyal (g.listRuns filter) := by
  refine Loyal.bind (Host.collect_loyal h _).attempt fun answer => ?_
  cases answer with
  | ok runs => exact loyal_pure _
  | error e => exact Loyal.noted (loyal_pure _)

theorem openPullRequests_loyal (h : g.host.Loyal) : Loyal g.openPullRequests := by
  refine Loyal.bind (Host.collect_loyal h _).attempt fun answer => ?_
  cases answer with
  | ok pulls => exact Loyal.noted (loyal_pure _)
  | error e => exact Loyal.noted (loyal_pure _)

/-! ## Queued duplicates -/

theorem cancelEach_loyal (h : g.host.Loyal) (l : Ledger) (runs : List WorkflowRun) : Loyal (g.cancelEach l runs) := by
  induction runs generalizing l with
  | nil => exact loyal_pure _
  | cons r rs ih =>
    refine Loyal.bind (apply_loyal h _ _ _ l r).outcome fun ended => ?_
    cases ended with
    | ok l' => exact ih l'
    | error e => exact loyal_pure _

theorem cancelDuplicates_loyal (h : g.host.Loyal) (filter : RunFilter) (l : Ledger) :
    Loyal (g.cancelDuplicates filter l) := by
  refine Loyal.bind (listRuns_loyal h filter).outcome fun found => ?_
  rcases found with e | _ | runs
  · exact loyal_pure _
  · exact loyal_pure _
  · apply Loyal.noted
    exact Loyal.bind (cancelEach_loyal h l (duplicateRuns runs)) fun _ => loyal_pure _

/-- Each branch is a task for the pool. -/
theorem cancelInBranches_loyal (h : g.host.Loyal) (l : Ledger) (branches : List Branch) :
    Loyal (g.cancelInBranches l branches) := by
  induction branches generalizing l with
  | nil => exact loyal_pure _
  | cons b bs ih =>
    refine Loyal.bind ((cancelDuplicates_loyal h _ l).inWorker 0) fun first => ?_
    refine Loyal.bind (ih first.1) fun rest => ?_
    rcases first with ⟨l', e | runs⟩
    · exact loyal_pure _
    · exact loyal_pure _

theorem cancelQueuedDuplicates_loyal (h : g.host.Loyal) (branches : List Branch) (l : Ledger) :
    Loyal (g.cancelQueuedDuplicates branches l) := by
  apply Loyal.bind (cancelInBranches_loyal h l branches)
  intro found
  apply Loyal.bind (loyal_conclude found.2)
  intro _
  apply Loyal.bind (cancelDuplicates_loyal h _ found.1)
  intro queued
  exact Loyal.bind (loyal_conclude queued.2) fun _ => loyal_pure _

/-! ## The other policies -/

theorem clearOrphans_loyal (h : g.host.Loyal) (runs : List WorkflowRun) (pulls : List PullRequest) (l : Ledger) :
    Loyal (g.clearOrphans runs pulls l) := by
  apply loyal_foldlM
  intro l r
  split
  · exact loyal_pure l
  · exact cancelThenRemove_loyal h _ _ l r

theorem purgeRun_loyal (h : g.host.Loyal) (now : Stamp) (l : Ledger) (r : WorkflowRun) :
    Loyal (g.purgeRun now l r) := by
  unfold purgeRun
  split
  · exact loyal_fail _
  · exact loyal_pure l
  · exact cancelThenRemove_loyal h _ _ l r

theorem purgePage_loyal (h : g.host.Loyal) (now : Stamp) (l : Ledger) (page : Int) : Loyal (g.purgePage now l page) := by
  refine Loyal.bind (h.runsPage page).attempt fun answer => ?_
  cases answer with
  | error e => exact Loyal.noted (loyal_pure l)
  | ok runs => exact Loyal.noted (loyal_foldlM (purgeRun_loyal h now) runs l)

theorem purgeDown_loyal (h : g.host.Loyal) (now : Stamp) (page : Nat) (l : Ledger) : Loyal (g.purgeDown now page l) := by
  induction page generalizing l with
  | zero => exact loyal_pure l
  | succ page ih => exact Loyal.bind (purgePage_loyal h now l _) ih

theorem sweepCancelled_loyal (h : g.host.Loyal) (l : Ledger) : Loyal (g.sweepCancelled l) := by
  refine Loyal.bind (listRuns_loyal h _) fun found => ?_
  cases found with
  | none => exact loyal_pure l
  | some runs => exact Loyal.noted (loyal_foldlM (apply_loyal h _ _ _) runs l)

theorem pruneRun_loyal (h : g.host.Loyal) (pulls : List PullRequest) (l : Ledger) (r : WorkflowRun) :
    Loyal (g.pruneRun pulls l r) := by
  unfold pruneRun
  split
  · exact cancelThenRemove_loyal h _ _ l r
  · split
    · exact loyal_pure l
    · exact cancelThenRemove_loyal h _ _ l r

theorem prune_loyal (h : g.host.Loyal) (pulls : List PullRequest) (l : Ledger) : Loyal (g.prune pulls l) := by
  refine Loyal.bind (listRuns_loyal h _) fun found => ?_
  cases found with
  | none => exact loyal_pure l
  | some runs => exact Loyal.noted (loyal_foldlM (pruneRun_loyal h pulls) runs l)

/-! ## The pass -/

theorem runPolicies_loyal (h : g.host.Loyal) (hclock : Loyal g.clock) (branches : List Branch) :
    Loyal (g.runPolicies branches) := by
  have hpurge : ∀ l, Loyal (g.purge l) := fun l => Loyal.bind hclock fun now => purgeDown_loyal h now _ l
  apply Loyal.bind (cancelQueuedDuplicates_loyal h branches {})
  intro found
  apply Loyal.bind (openPullRequests_loyal h)
  intro pulls
  cases pulls with
  | none =>
    refine Loyal.bind (loyal_pure found.1) fun l => ?_
    refine Loyal.bind (hpurge l) fun l => ?_
    exact Loyal.bind (sweepCancelled_loyal h l) fun l => loyal_pure l
  | some pulls =>
    refine Loyal.bind (clearOrphans_loyal h found.2 pulls found.1) fun l => ?_
    refine Loyal.bind (hpurge l) fun l => ?_
    exact Loyal.bind (sweepCancelled_loyal h l) fun l => prune_loyal h pulls l

theorem runPass_loyal (h : g.host.Loyal) (hclock : Loyal g.clock) (branches : List Branch) :
    Loyal (g.runPass branches) := by
  apply Loyal.noted
  refine Loyal.bind (runPolicies_loyal h hclock branches) fun l => ?_
  exact Loyal.noted (loyal_pure _)

end Governor

end RunSteward
