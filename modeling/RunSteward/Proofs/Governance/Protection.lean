import RunSteward.Proofs.Governance.Deeds
import RunSteward.Proofs.Governance.RunStore
import RunSteward.Proofs.Governance.Selection

/-!
# Protection by pull requests

Open pull requests protect the runs of their head branches. The orphan policy leaves a run alone if any of them has
its branch as head. Pruning asks more, that one vouches for the run, but it asks only the first pull request of the
branch (`GovernanceSettings.Spares`). Where all pull requests of a branch agree that is as good as asking all of them,
and then their order is no matter (`prune_perm`). Where they do not agree, a pull request of somebody else's fork can
come first and cost a trusted author the runs of the same branch name (`shadowed_run_pruned`).
-/

namespace RunSteward

/-! ## Vouching -/

namespace GovernanceSettings

/-- A branch is protected if some open pull request vouches for its runs. -/
def Protects (settings : GovernanceSettings) (pulls : List PullRequest) (branch : String) : Prop :=
  ∃ p ∈ pulls, p.headRef = branch ∧ settings.vouches p = true

/-- A branch is spared if its first open pull request vouches for its runs. -/
def Spares (settings : GovernanceSettings) (pulls : List PullRequest) (branch : String) : Prop :=
  ∃ p, (pulls.find? fun p => p.headRef == branch) = some p ∧ settings.vouches p = true

/-- The pull requests of one branch vouch for its runs all together, or not at all. -/
def Agree (settings : GovernanceSettings) (pulls : List PullRequest) : Prop :=
  ∀ p ∈ pulls, ∀ q ∈ pulls, p.headRef = q.headRef → settings.vouches p = settings.vouches q

variable {settings : GovernanceSettings} {pulls : List PullRequest} {branch : String}

theorem Spares.protects (h : settings.Spares pulls branch) : settings.Protects pulls branch := by
  obtain ⟨p, hfirst, hvouches⟩ := h
  exact ⟨p, List.mem_of_find?_eq_some hfirst, by simpa using List.find?_some hfirst, hvouches⟩

theorem Protects.spares_or (h : settings.Protects pulls branch) :
    settings.Spares pulls branch ∨
      ∃ p, (pulls.find? fun p => p.headRef == branch) = some p ∧ settings.vouches p = false := by
  obtain ⟨q, hq, hhead, -⟩ := h
  rcases hfirst : pulls.find? fun p => p.headRef == branch with _ | p
  · have hnone := List.find?_eq_none.mp hfirst q hq
    simp [hhead] at hnone
  · rcases hvouches : settings.vouches p with _ | _
    · exact .inr ⟨p, hfirst, hvouches⟩
    · exact .inl ⟨p, hfirst, hvouches⟩

theorem Agree.spares_iff (h : settings.Agree pulls) (branch : String) :
    settings.Spares pulls branch ↔ settings.Protects pulls branch := by
  constructor
  · exact Spares.protects
  · intro hprotects
    rcases hprotects.spares_or with hspares | ⟨p, hfirst, hrefuses⟩
    · exact hspares
    · obtain ⟨q, hq, hhead, hvouches⟩ := hprotects
      have hfirsthead : p.headRef = branch := by simpa using List.find?_some hfirst
      rw [h p (List.mem_of_find?_eq_some hfirst) q hq (hfirsthead.trans hhead.symm), hvouches] at hrefuses
      cases hrefuses

end GovernanceSettings

/-! ## The order of pull requests -/

/-- What the first match has is no matter of order where all matches have the same. -/
theorem find?_map_perm {α β : Type} {p : α → Bool} {f : α → β} {xs ys : List α} (hperm : xs.Perm ys)
    (hagree : ∀ x ∈ xs, ∀ y ∈ xs, p x = true → p y = true → f x = f y) :
    (xs.find? p).map f = (ys.find? p).map f := by
  rcases hx : xs.find? p with _ | x
  · have hy : ys.find? p = none := by
      rw [List.find?_eq_none] at hx ⊢
      exact fun y hy => hx y (hperm.mem_iff.mpr hy)
    rw [hy]
  · have hmem : x ∈ xs := List.mem_of_find?_eq_some hx
    rcases hy : ys.find? p with _ | y
    · exact absurd (List.find?_some hx) (List.find?_eq_none.mp hy x (hperm.mem_iff.mp hmem))
    · have hmem' : y ∈ xs := hperm.mem_iff.mpr (List.mem_of_find?_eq_some hy)
      have hsame := hagree x hmem y hmem' (List.find?_some hx) (List.find?_some hy)
      simp [hsame]

theorem nodup_eraseDups {α : Type} [BEq α] [LawfulBEq α] (xs : List α) : xs.eraseDups.Nodup := by
  induction hlength : xs.length using Nat.strongRecOn generalizing xs with
  | ind n ih =>
    cases xs with
    | nil => simp
    | cons x xs =>
      rw [List.eraseDups_cons, List.nodup_cons]
      refine ⟨by simp, ih _ ?_ _ rfl⟩
      rw [← hlength, List.length_cons]
      exact Nat.lt_succ_of_le (List.length_filter_le _ _)

namespace Order

variable {settings : GovernanceSettings} {pulls pulls' : List PullRequest}

theorem ofOrphans_perm (hperm : pulls.Perm pulls') (runs : List WorkflowRun) :
    ofOrphans runs pulls = ofOrphans runs pulls' := by
  unfold ofOrphans
  simp only [hperm.any_eq]

/-- Of the pull requests only one thing matters to pruning: whether the first one of the branch vouches for it. -/
theorem ofPruning_congr {r : WorkflowRun}
    (h : (pulls.find? fun p => p.headRef == r.headBranch).map settings.vouches =
      (pulls'.find? fun p => p.headRef == r.headBranch).map settings.vouches) :
    ofPruning settings pulls r = ofPruning settings pulls' r := by
  unfold ofPruning
  generalize (pulls.find? fun p => p.headRef == r.headBranch) = first at h
  generalize (pulls'.find? fun p => p.headRef == r.headBranch) = first' at h
  rcases first with _ | p <;> rcases first' with _ | p'
  · rfl
  · cases h
  · cases h
  · have hvouches : settings.vouches p = settings.vouches p' := Option.some.inj h
    unfold GovernanceSettings.vouches at hvouches
    simp only [hvouches]

theorem ofPruning_perm (hagree : settings.Agree pulls) (hperm : pulls.Perm pulls') (r : WorkflowRun) :
    ofPruning settings pulls r = ofPruning settings pulls' r := by
  refine ofPruning_congr (find?_map_perm hperm fun p hp q hq hphead hqhead => ?_)
  have hphead : p.headRef = r.headBranch := by simpa using hphead
  have hqhead : q.headRef = r.headBranch := by simpa using hqhead
  exact hagree p hp q hq (hphead.trans hqhead.symm)

end Order

namespace Governor

open Act

variable {σ : Type} {g : Governor σ} {pulls pulls' : List PullRequest}

theorem headCount_perm (hperm : pulls.Perm pulls') : headCount pulls = headCount pulls' := by
  have hheads := hperm.map PullRequest.headRef
  refine List.Perm.length_eq ((List.perm_ext_iff_of_nodup (nodup_eraseDups _) (nodup_eraseDups _)).mpr fun head => ?_)
  rw [List.mem_eraseDups, List.mem_eraseDups, hheads.mem_iff]

theorem clearOrphans_perm (g : Governor σ) (hperm : pulls.Perm pulls') (runs : List WorkflowRun) (l : Ledger) :
    g.clearOrphans runs pulls l = g.clearOrphans runs pulls' l := by
  rw [clearOrphans_eq, clearOrphans_eq, Order.ofOrphans_perm hperm]

theorem prune_perm (g : Governor σ) (hagree : g.settings.Agree pulls) (hperm : pulls.Perm pulls') (l : Ledger) :
    g.prune pulls l = g.prune pulls' l := by
  have horders : Order.ofPruning g.settings pulls = Order.ofPruning g.settings pulls' :=
    funext (Order.ofPruning_perm hagree hperm)
  unfold prune
  simp only [pruneAll_eq, headCount_perm hperm, horders]

/-! ## Which runs are cleared -/

/-- What came of the runs in a listing, from one ledger to another: all new actions are on runs whose branches are
not spared, and every such run has been removed or has an action that tried to. -/
structure Cleared (spared : String → Prop) (runs : List WorkflowRun) (l l' : Ledger) : Prop where
  acted : ∃ deeds : List Deed, l'.actions = l.actions ++ deeds.map Deed.action ∧
    ∀ x ∈ deeds, x.order.run ∈ runs ∧ ¬spared x.order.run.headBranch
  removed : l.Backed → ∀ r ∈ runs, ¬spared r.headBranch → ∃ a ∈ l'.actions, a.kind = .remove ∧ a.runId = r.id

theorem cleared_of_orders {spared : String → Prop} {runs : List WorkflowRun} {os : List Order} {l l' : Ledger}
    {s : Scope} {d d' : Desk σ} (hend : g.obeyAll l os s d = (.ok l', d'))
    (hsound : ∀ o ∈ os, o.run ∈ runs ∧ ¬spared o.run.headBranch)
    (hcomplete : ∀ r ∈ runs, ¬spared r.headBranch → ∃ o ∈ os, o.kind = .remove ∧ o.run = r) :
    Cleared spared runs l l' := by
  obtain ⟨deeds, hcarried⟩ := obeyAll_carried hend
  refine ⟨⟨deeds, hcarried.actions, fun x hx => hsound _ (hcarried.order_mem hx)⟩, fun hbacked r hr hunspared => ?_⟩
  obtain ⟨o, ho, hkind, rfl⟩ := hcomplete r hr hunspared
  rcases hcarried.attended hbacked ho with ⟨a, ha, hakind, hid⟩ | ⟨hcancel, -⟩
  · exact ⟨a, ha, hakind.trans hkind, hid⟩
  · rw [hkind] at hcancel
    cases hcancel

theorem clearOrphans_cleared {runs : List WorkflowRun} {l l' : Ledger} {s : Scope} {d : Desk σ}
    (hend : (g.clearOrphans runs pulls l s d).1 = .ok l') :
    Cleared (fun branch => ∃ p ∈ pulls, p.headRef = branch) runs l l' := by
  rw [clearOrphans_eq] at hend
  refine cleared_of_orders (Prod.ext hend rfl) (fun o ho => ?_) fun r hr hunspared => ?_
  · obtain ⟨-, hrun, habsent⟩ := Order.of_mem_ofOrphans ho
    refine ⟨hrun, ?_⟩
    rintro ⟨p, hp, hhead⟩
    exact habsent p hp hhead
  · exact Order.remove_mem_ofOrphans hr (by simpa using hunspared)

theorem prune_cleared {runs : List WorkflowRun} {l l' : Ledger} {s : Scope} {d : Desk σ}
    (hlisted : (g.listRuns .ofPulls s d).1 = .ok (some runs)) (hend : (g.prune pulls l s d).1 = .ok l') :
    Cleared (g.settings.Spares pulls) runs l l' := by
  obtain ⟨found, d₁, hfound, hrest⟩ := ok_of_bind (Prod.ext hend rfl)
  obtain rfl := Except.ok.inj (hlisted.symm.trans (congrArg Prod.fst hfound))
  obtain ⟨_, d₂, -, hpruned⟩ := ok_of_bind hrest
  rw [pruneAll_eq] at hpruned
  refine cleared_of_orders hpruned (fun o ho => ?_) fun r hr hunspared => ?_
  · obtain ⟨r, hr, ho⟩ := List.mem_flatMap.mp ho
    obtain ⟨-, rfl, hfirst⟩ := Order.of_mem_ofPruning ho
    refine ⟨hr, ?_⟩
    rintro ⟨p, hhead, hvouches⟩
    simp [hfirst p hhead] at hvouches
  · obtain ⟨o, ho, hkind, hrun⟩ := Order.remove_mem_ofPruning fun hnil => hunspared (Order.ofPruning_eq_nil.mp hnil)
    exact ⟨o, List.mem_flatMap.mpr ⟨r, hr, ho⟩, hkind, hrun⟩

/-- How the policies on runs of pull requests heed the open ones. A protected branch is the head of one of them, and
it is spared by pruning as well where they agree; then it does not matter in which order they are listed. -/
structure Heeds (g : Governor σ) (pulls : List PullRequest) : Prop where
  orphans : ∀ runs l l' s d, (g.clearOrphans runs pulls l s d).1 = .ok l' →
    Cleared (fun branch => ∃ p ∈ pulls, p.headRef = branch) runs l l'
  pruning : ∀ runs l l' s d, (g.listRuns .ofPulls s d).1 = .ok (some runs) → (g.prune pulls l s d).1 = .ok l' →
    Cleared (g.settings.Spares pulls) runs l l'
  protected_heads : ∀ branch, g.settings.Protects pulls branch → ∃ p ∈ pulls, p.headRef = branch
  protected_unless_shadowed : ∀ branch, g.settings.Protects pulls branch → g.settings.Spares pulls branch ∨
    ∃ p, (pulls.find? fun p => p.headRef == branch) = some p ∧ g.settings.vouches p = false
  spared_iff : g.settings.Agree pulls →
    ∀ branch, g.settings.Spares pulls branch ↔ g.settings.Protects pulls branch
  orphans_perm : ∀ pulls', pulls.Perm pulls' → ∀ runs l, g.clearOrphans runs pulls l = g.clearOrphans runs pulls' l
  pruning_perm : g.settings.Agree pulls → ∀ pulls', pulls.Perm pulls' → ∀ l, g.prune pulls l = g.prune pulls' l

/-- **Open pull requests protect the runs of their branches.** The orphan policy acts exactly on the listed runs whose
branch no open pull request has as head, and pruning on those whose first pull request does not vouch for them. A
protected run is pruned only if a pull request that does not vouch for it is listed before. -/
theorem pull_requests_heeded (g : Governor σ) (pulls : List PullRequest) : g.Heeds pulls where
  orphans _ _ _ _ _ hend := clearOrphans_cleared hend
  pruning _ _ _ _ _ hlisted hend := prune_cleared hlisted hend
  protected_heads branch hprotects := by
    obtain ⟨p, hp, hhead, -⟩ := hprotects
    exact ⟨p, hp, hhead⟩
  protected_unless_shadowed _ hprotects := hprotects.spares_or
  spared_iff hagree branch := hagree.spares_iff branch
  orphans_perm _ hperm runs l := g.clearOrphans_perm hperm runs l
  pruning_perm hagree _ hperm l := g.prune_perm hagree hperm l

def malloryPull : PullRequest :=
  { number := 1, authorLogin := "mallory", headRef := "feature" }

def alicePull : PullRequest :=
  { number := 2, authorLogin := "alice", headRef := "feature" }

/-- A store of two finished runs of pull requests: one of the branch `feature`, and one of a branch that is gone. -/
def featureDesk : Desk RunStore :=
  ⟨⟨[{ RunStore.queuedRun 2 "gone" pullRequestEvent with status := "completed" },
      { RunStore.queuedRun 1 "feature" pullRequestEvent with status := "completed" }], [], by decide⟩, #[]⟩

def prunedAction (i : Int) (branch reason : String) : Action :=
  ⟨.pullRequestPruning, .remove, i, "build", branch, reason, .done⟩

/-- The run of a trusted author is spared, and the run of the branch that is gone is removed. -/
theorem pull_requests_heeded_feature :
    ((RunStore.governor RunStore.answer default).prune [alicePull] {} {} featureDesk).1 =
        .ok ⟨[prunedAction 2 "gone" "no_open_pull_request"], [], [2]⟩ ∧
      Cleared ((RunStore.governor RunStore.answer default).settings.Spares [alicePull]) featureDesk.world.runs {}
        ⟨[prunedAction 2 "gone" "no_open_pull_request"], [], [2]⟩ := by
  have hend : ((RunStore.governor RunStore.answer default).prune [alicePull] {} {} featureDesk).1 =
      .ok ⟨[prunedAction 2 "gone" "no_open_pull_request"], [], [2]⟩ := by
    decide +kernel
  have hlisted : ((RunStore.governor RunStore.answer default).listRuns .ofPulls {} featureDesk).1 =
      .ok (some featureDesk.world.runs) := by
    decide +kernel
  exact ⟨hend, (pull_requests_heeded _ [alicePull]).pruning _ _ _ _ _ hlisted hend⟩

/-- The pull request of a trusted author protects the runs of its branch, and yet they are pruned if somebody else's
pull request of the same branch name is listed before it. -/
theorem shadowed_run_pruned :
    (RunStore.governor RunStore.answer default).settings.Protects [malloryPull, alicePull] "feature" ∧
      ((RunStore.governor RunStore.answer default).prune [malloryPull, alicePull] {} {} featureDesk).1 =
        .ok ⟨[prunedAction 2 "gone" "no_open_pull_request", prunedAction 1 "feature" "untrusted_without_ci_label"],
          [], [1, 2]⟩ ∧
      ((RunStore.governor RunStore.answer default).prune [alicePull, malloryPull] {} {} featureDesk).1 =
        .ok ⟨[prunedAction 2 "gone" "no_open_pull_request"], [], [2]⟩ := by
  refine ⟨⟨alicePull, by decide, rfl, by decide +kernel⟩, ?_, ?_⟩ <;> decide +kernel

end Governor

end RunSteward
