import RunSteward.Governance.Pass
import RunSteward.Proofs.Act.Result

/-!
# Orders

Every policy reads something and then calls for actions on runs. An order is one such call, before the
ledger has decided whether it would be a repetition. What a policy orders depends on what it read and
on nothing else, so each policy is a list of orders (`Order.ofDuplicates`, `Order.ofOrphans`, …) that a
governor obeys in turn (`Governor.obeyAll`).
-/

namespace RunSteward

variable {σ : Type} {s : Scope} {d d' : Desk σ}

/-- Tells whether a pull request vouches for the runs of its head branch: it comes from somebody trusted, or it
carries the label. -/
def GovernanceSettings.vouches (settings : GovernanceSettings) (p : PullRequest) : Bool :=
  settings.isTrusted p.authorLogin || p.hasLabel settings.ciLabel

/-- An action that a policy calls for. -/
structure Order where
  policy : Policy
  kind : ActionKind
  reason : Reason
  run : WorkflowRun
deriving DecidableEq, Repr

namespace Order

/-- The action that an order leads to, with the outcome it has. -/
def action (o : Order) (outcome : ActionOutcome) : Action :=
  ⟨o.policy, o.kind, o.run.id, o.run.name, o.run.headBranch, o.reason.text, outcome⟩

@[simp] theorem action_kind (o : Order) (x : ActionOutcome) : (o.action x).kind = o.kind := rfl
@[simp] theorem action_runId (o : Order) (x : ActionOutcome) : (o.action x).runId = o.run.id := rfl
@[simp] theorem action_outcome (o : Order) (x : ActionOutcome) : (o.action x).outcome = x := rfl

/-- The orders that clear a run away: an active one is cancelled before it is removed. -/
def clearing (policy : Policy) (reason : Reason) (r : WorkflowRun) : List Order :=
  if r.isActive then [⟨policy, .cancel, reason, r⟩, ⟨policy, .remove, reason, r⟩]
  else [⟨policy, .remove, reason, r⟩]

def ofDuplicates (runs : List WorkflowRun) : List Order :=
  (duplicateRuns runs).map fun r => ⟨.duplicateQueued, .cancel, .superseded, r⟩

/-- The orders for the runs that belong to no open pull request. -/
def ofOrphans (runs : List WorkflowRun) (pulls : List PullRequest) : List Order :=
  runs.flatMap fun r =>
    if pulls.any fun p => p.headRef == r.headBranch then []
    else clearing .orphanedPullRequest .noOpenPullRequest r

/-- The orders for a run that may have expired. -/
def ofExpiry (settings : GovernanceSettings) (now : Stamp) (r : WorkflowRun) : List Order :=
  match r.expiry settings now with
  | .ok (some reason) => clearing .retention reason r
  | _ => []

def ofCancelled (runs : List WorkflowRun) : List Order :=
  runs.map fun r => ⟨.cancelledSweep, .remove, .cancelled, r⟩

/-- The orders for a run of pull requests, given the open ones. -/
def ofPruning (settings : GovernanceSettings) (pulls : List PullRequest) (r : WorkflowRun) :
    List Order :=
  match pulls.find? fun p => p.headRef == r.headBranch with
  | none => clearing .pullRequestPruning .noOpenPullRequest r
  | some p =>
    if settings.isTrusted p.authorLogin || p.hasLabel settings.ciLabel then []
    else clearing .pullRequestPruning .untrustedWithoutLabel r

theorem mem_clearing {policy : Policy} {reason : Reason} {r : WorkflowRun} {o : Order} :
    o ∈ clearing policy reason r ↔
      o.policy = policy ∧ o.reason = reason ∧ o.run = r ∧ (o.kind = .cancel → r.isActive = true) := by
  obtain ⟨p, k, c, q⟩ := o
  by_cases h : r.isActive = true
  · cases k <;> simp [clearing, h]
  · cases k <;> simp [clearing, h]

@[simp] theorem ofDuplicates_nil : ofDuplicates [] = [] := by
  simp [ofDuplicates, duplicateRuns]

theorem remove_mem_clearing (policy : Policy) (reason : Reason) (r : WorkflowRun) :
    ⟨policy, .remove, reason, r⟩ ∈ clearing policy reason r := by
  simp [mem_clearing]

/-! ### What orders are for -/

variable {o : Order} {r : WorkflowRun} {runs : List WorkflowRun} {pulls : List PullRequest}
  {settings : GovernanceSettings} {now : Stamp}

theorem of_mem_ofDuplicates (h : o ∈ ofDuplicates runs) :
    o.policy = .duplicateQueued ∧ o.kind = .cancel ∧ o.run ∈ duplicateRuns runs := by
  obtain ⟨r, hr, rfl⟩ := List.mem_map.mp h
  exact ⟨rfl, rfl, hr⟩

theorem of_mem_ofOrphans (h : o ∈ ofOrphans runs pulls) :
    o.policy = .orphanedPullRequest ∧ o.run ∈ runs ∧ ∀ p ∈ pulls, p.headRef ≠ o.run.headBranch := by
  obtain ⟨r, hr, ho⟩ := List.mem_flatMap.mp h
  split at ho
  · simp at ho
  · rename_i habsent
    obtain ⟨hpolicy, -, rfl, -⟩ := mem_clearing.mp ho
    exact ⟨hpolicy, hr, by simpa using habsent⟩

theorem of_mem_ofExpiry (h : o ∈ ofExpiry settings now r) :
    o.policy = .retention ∧ o.run = r ∧ ∃ reason, r.expiry settings now = .ok (some reason) := by
  unfold ofExpiry at h
  split at h
  · rename_i reason hexpired
    obtain ⟨hpolicy, -, hrun, -⟩ := mem_clearing.mp h
    exact ⟨hpolicy, hrun, reason, hexpired⟩
  · simp at h

theorem of_mem_ofCancelled (h : o ∈ ofCancelled runs) :
    o.policy = .cancelledSweep ∧ o.kind = .remove ∧ o.run ∈ runs := by
  obtain ⟨r, hr, rfl⟩ := List.mem_map.mp h
  exact ⟨rfl, rfl, hr⟩

theorem ofPruning_eq_nil :
    ofPruning settings pulls r = [] ↔
      ∃ p, (pulls.find? fun p => p.headRef == r.headBranch) = some p ∧ settings.vouches p = true := by
  unfold ofPruning
  cases pulls.find? fun p => p.headRef == r.headBranch with
  | none => simpa using List.ne_nil_of_mem (remove_mem_clearing .pullRequestPruning .noOpenPullRequest r)
  | some p =>
    have hcleared := List.ne_nil_of_mem (remove_mem_clearing .pullRequestPruning .untrustedWithoutLabel r)
    change (if settings.vouches p = true then [] else clearing .pullRequestPruning .untrustedWithoutLabel r) = [] ↔ _
    by_cases hvouches : settings.vouches p = true
    · simp [hvouches]
    · simpa [hvouches] using hcleared

theorem of_mem_ofPruning (h : o ∈ ofPruning settings pulls r) :
    o.policy = .pullRequestPruning ∧ o.run = r ∧
      ∀ p, (pulls.find? fun p => p.headRef == r.headBranch) = some p → settings.vouches p = false := by
  have hunvouched : ∀ p, (pulls.find? fun p => p.headRef == r.headBranch) = some p → settings.vouches p = false := by
    intro p hfirst
    refine Bool.eq_false_iff.mpr fun hvouches => ?_
    have hnil := ofPruning_eq_nil.mpr ⟨p, hfirst, hvouches⟩
    simp [hnil] at h
  have hclears : ∃ reason, o ∈ clearing .pullRequestPruning reason r := by
    unfold ofPruning at h
    split at h
    · exact ⟨_, h⟩
    · split at h
      · simp at h
      · exact ⟨_, h⟩
  obtain ⟨reason, hclears⟩ := hclears
  obtain ⟨hpolicy, -, hrun, -⟩ := mem_clearing.mp hclears
  exact ⟨hpolicy, hrun, hunvouched⟩

/-! ### Runs that are removed -/

theorem remove_mem_ofOrphans {r : WorkflowRun} (hr : r ∈ runs)
    (habsent : (pulls.any fun p => p.headRef == r.headBranch) = false) :
    ∃ o ∈ ofOrphans runs pulls, o.kind = .remove ∧ o.run = r := by
  refine ⟨⟨.orphanedPullRequest, .remove, .noOpenPullRequest, r⟩, ?_, rfl, rfl⟩
  refine List.mem_flatMap.mpr ⟨r, hr, ?_⟩
  rw [if_neg (by simp [habsent])]
  exact remove_mem_clearing ..

theorem remove_mem_ofExpiry (h : ofExpiry settings now r ≠ []) :
    ∃ o ∈ ofExpiry settings now r, o.kind = .remove ∧ o.run = r := by
  unfold ofExpiry at h ⊢
  split at h
  · exact ⟨_, remove_mem_clearing .., rfl, rfl⟩
  · exact absurd rfl h

theorem ofExpiry_eq_nil :
    ofExpiry settings now r = [] ↔ ∀ reason, r.expiry settings now ≠ .ok (some reason) := by
  constructor
  · intro h reason hexpired
    have hmem := remove_mem_clearing .retention reason r
    simp only [ofExpiry, hexpired] at h
    simp [h] at hmem
  · intro h
    unfold ofExpiry
    split
    · rename_i reason hexpired
      exact absurd hexpired (h reason)
    · rfl

theorem remove_mem_ofPruning (h : ofPruning settings pulls r ≠ []) :
    ∃ o ∈ ofPruning settings pulls r, o.kind = .remove ∧ o.run = r := by
  unfold ofPruning at h ⊢
  split at h
  · exact ⟨_, remove_mem_clearing .., rfl, rfl⟩
  · split at h
    · exact absurd rfl h
    · rename_i hvouched
      rw [if_neg hvouched]
      exact ⟨_, remove_mem_clearing .., rfl, rfl⟩

end Order

namespace Governor

variable (g : Governor σ)

/-- Carries out an order, unless the ledger says that this would be a repetition. -/
def obey (l : Ledger) (o : Order) : Act σ Ledger :=
  g.apply o.kind o.policy o.reason l o.run

def obeyAll (l : Ledger) (orders : List Order) : Act σ Ledger :=
  orders.foldlM g.obey l

/-! ## What one order does -/

theorem mutate_of_rehearsal {kind : ActionKind} {policy : Policy} {r : WorkflowRun}
    (hrehearsal : g.rehearsal = true) : g.mutate kind policy r s d = (.ok .planned, d) := by
  simp [mutate, hrehearsal]

/-- An answered request has its outcome, and a log that tells of a failure. -/
theorem mutate_of_answer {kind : ActionKind} (policy : Policy) {r : WorkflowRun}
    (answer : Except HostError Unit) (hreal : g.rehearsal = false)
    (hrequest : g.request kind r s d = (answer.mapError Failure.host, d')) :
    ∃ log, g.mutate kind policy r s d = (.ok (outcomeOf answer), { d' with log := log }) := by
  have hattempt := Act.attempt_eq_ok.mpr hrequest
  rw [mutate, hreal, if_neg (by simp), Act.bind_of_ok _ hattempt]
  rcases answer with e | _
  · by_cases hsettled : e.kind = .notFound ∨ e.kind = .conflict
    · simp only [outcomeOf, if_pos hsettled]
      exact ⟨_, rfl⟩
    · simp only [outcomeOf, if_neg hsettled]
      exact ⟨_, rfl⟩
  · exact ⟨_, rfl⟩

variable {g} {l l' : Ledger} {o : Order}

theorem obey_eq : g.obey l o = g.enact o.kind o.policy o.reason l o.run >>= fun p => tell p.2 >>= fun _ => pure p.1 :=
  rfl

theorem enact_of_already (h : l.already o.kind o.run.id = true) :
    g.enact o.kind o.policy o.reason l o.run = pure (l, none) := by
  rw [enact, if_pos h]

theorem enact_of_fresh (h : l.already o.kind o.run.id = false) :
    g.enact o.kind o.policy o.reason l o.run = g.mutate o.kind o.policy o.run >>= fun x =>
      pure (l.record (o.action x), some (o.action x)) := by
  rw [enact, if_neg (by simp [h])]
  rfl

theorem obey_of_fresh (h : l.already o.kind o.run.id = false) :
    g.obey l o = g.mutate o.kind o.policy o.run >>= fun x =>
      Act.info logger "governance_action" (o.action x).fields >>= fun _ => pure (l.record (o.action x)) := by
  rw [obey_eq, enact_of_fresh h, bind_assoc]
  rfl

theorem tell_notes (action : Option Action) : Act.Notes (tell action : Act σ Unit) () := by
  intro s d
  cases action with
  | none => exact ⟨_, rfl⟩
  | some a => exact ⟨_, rfl⟩

theorem obey_of_enact {p : Ledger × Option Action}
    (h : g.enact o.kind o.policy o.reason l o.run s d = (.ok p, d')) :
    ∃ log, g.obey l o s d = (.ok p.1, { d' with log := log }) := by
  obtain ⟨log, htell⟩ := tell_notes p.2 s d'
  refine ⟨log, ?_⟩
  rw [obey_eq, Act.bind_of_ok _ h, Act.bind_of_ok _ htell]
  rfl

theorem obey_of_already (h : l.already o.kind o.run.id = true) : g.obey l o s d = (.ok l, d) := by
  rw [obey_eq, enact_of_already h]
  rfl

theorem enact_of_outcome {x : ActionOutcome} (h : l.already o.kind o.run.id = false)
    (hmutate : g.mutate o.kind o.policy o.run s d = (.ok x, d')) :
    g.enact o.kind o.policy o.reason l o.run s d = (.ok (l.record (o.action x), some (o.action x)), d') := by
  rw [enact_of_fresh h, Act.bind_of_ok _ hmutate]
  rfl

theorem enact_of_rehearsal (h : l.already o.kind o.run.id = false) (hrehearsal : g.rehearsal = true) :
    g.enact o.kind o.policy o.reason l o.run s d =
      (.ok (l.record (o.action .planned), some (o.action .planned)), d) :=
  enact_of_outcome h (g.mutate_of_rehearsal hrehearsal)

theorem enact_of_answer (answer : Except HostError Unit) (h : l.already o.kind o.run.id = false)
    (hreal : g.rehearsal = false)
    (hrequest : g.request o.kind o.run s d = (answer.mapError Failure.host, d')) :
    ∃ log, g.enact o.kind o.policy o.reason l o.run s d =
      (.ok (l.record (o.action (outcomeOf answer)), some (o.action (outcomeOf answer))), { d' with log := log }) := by
  obtain ⟨log, hmutate⟩ := g.mutate_of_answer o.policy answer hreal hrequest
  exact ⟨log, enact_of_outcome h hmutate⟩

theorem obey_of_answer (answer : Except HostError Unit) (h : l.already o.kind o.run.id = false)
    (hreal : g.rehearsal = false)
    (hrequest : g.request o.kind o.run s d = (answer.mapError Failure.host, d')) :
    ∃ log, g.obey l o s d = (.ok (l.record (o.action (outcomeOf answer))), { d' with log := log }) := by
  obtain ⟨log, henact⟩ := enact_of_answer answer h hreal hrequest
  exact obey_of_enact henact

/-! ## Policies as orders -/

theorem obeyAll_cons (l : Ledger) (o : Order) (os : List Order) :
    g.obeyAll l (o :: os) = g.obey l o >>= fun l => g.obeyAll l os :=
  List.foldlM_cons

theorem obeyAll_append (l : Ledger) (os os' : List Order) :
    g.obeyAll l (os ++ os') = g.obeyAll l os >>= fun l => g.obeyAll l os' :=
  List.foldlM_append

theorem foldlM_obeyAll {α : Type} (orders : α → List Order) (xs : List α) (l : Ledger) :
    xs.foldlM (fun l x => g.obeyAll l (orders x)) l = g.obeyAll l (xs.flatMap orders) := by
  induction xs generalizing l with
  | nil => rfl
  | cons x xs ih =>
    rw [List.foldlM_cons, List.flatMap_cons, obeyAll_append]
    exact bind_congr ih

theorem cancelThenRemove_eq (policy : Policy) (reason : Reason) (l : Ledger) (r : WorkflowRun) :
    g.cancelThenRemove policy reason l r = g.obeyAll l (Order.clearing policy reason r) := by
  by_cases h : r.isActive = true
  · simp [cancelThenRemove, Order.clearing, obeyAll, obey, h]
  · simp [cancelThenRemove, Order.clearing, obeyAll, obey, h]

theorem clearOrphans_eq (runs : List WorkflowRun) (pulls : List PullRequest) (l : Ledger) :
    g.clearOrphans runs pulls l = g.obeyAll l (Order.ofOrphans runs pulls) := by
  rw [clearOrphans, Order.ofOrphans, ← foldlM_obeyAll]
  congr 1
  funext l r
  split
  · rfl
  · exact cancelThenRemove_eq ..

theorem sweep_eq (runs : List WorkflowRun) (l : Ledger) :
    runs.foldlM (g.apply .remove .cancelledSweep .cancelled) l =
      g.obeyAll l (Order.ofCancelled runs) := by
  rw [obeyAll, Order.ofCancelled, List.foldlM_map]
  rfl

theorem pruneAll_eq (pulls : List PullRequest) (runs : List WorkflowRun) (l : Ledger) :
    runs.foldlM (g.pruneRun pulls) l =
      g.obeyAll l (runs.flatMap (Order.ofPruning g.settings pulls)) := by
  rw [← foldlM_obeyAll]
  congr 1
  funext l r
  rw [pruneRun, Order.ofPruning]
  cases pulls.find? fun p => p.headRef == r.headBranch with
  | none => exact cancelThenRemove_eq ..
  | some p =>
    by_cases hvouched : (g.settings.isTrusted p.authorLogin || p.hasLabel g.settings.ciLabel) = true
    · simp only [if_pos hvouched]
      rfl
    · simp only [if_neg hvouched]
      exact cancelThenRemove_eq ..

theorem purgeRun_eq {now : Stamp} {r : WorkflowRun} {x : Option Reason}
    (h : r.expiry g.settings now = .ok x) (l : Ledger) :
    g.purgeRun now l r = g.obeyAll l (Order.ofExpiry g.settings now r) := by
  rw [purgeRun, Order.ofExpiry, h]
  cases x with
  | none => rfl
  | some reason => exact cancelThenRemove_eq ..

theorem purgeAll_eq {now : Stamp} {runs : List WorkflowRun}
    (h : ∀ r ∈ runs, ∃ x, r.expiry g.settings now = .ok x) (l : Ledger) :
    runs.foldlM (g.purgeRun now) l = g.obeyAll l (runs.flatMap (Order.ofExpiry g.settings now)) := by
  rw [← foldlM_obeyAll]
  induction runs generalizing l with
  | nil => rfl
  | cons r runs ih =>
    obtain ⟨x, hx⟩ := h r (by simp)
    rw [List.foldlM_cons, List.foldlM_cons, purgeRun_eq hx]
    exact bind_congr fun l => ih (fun r hr => h r (by simp [hr])) l

end Governor

end RunSteward
