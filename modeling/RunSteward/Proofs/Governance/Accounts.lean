import RunSteward.Proofs.Governance.Discretion
import RunSteward.Proofs.Governance.Ledger

/-!
# Accounts

The ledger of a pass grows by an action when a run has been acted on, and the log grows by a line when the action is
told.
That what an act tells is what it found untold and what it deals itself, less what it leaves untold, is
`Governor.Accounts`. It holds of one action on a run, whose failure adds neither (`enact_accounts`), and is handed on
from
policy to policy. The host and the clock may log what they like, as long as nobody can take it for the lines of the
pass.
-/

namespace RunSteward

open Act

variable {σ : Type}

/-! ## Lines -/

/-- A record that tells of an action, in a scope. -/
structure Action.ToldBy (r : LogRecord) (x : Scope × Action) : Prop where
  level : r.level = .info
  logger : r.logger = Governor.logger
  scope : r.scope = x.1
  message : r.message = LogEvent.message "governance_action" x.2.fields

section Lines

variable {toFiles : Bool} {s : Scope} {name event : String} {fields : LogFields}

theorem writtenAbout_line (h : LogEvent.IsName event) :
    LogSetup.writtenAbout ⟨some .high, toFiles⟩ event [⟨.info, Governor.logger, s, LogEvent.message event fields⟩] =
      [⟨.info, Governor.logger, s, LogEvent.message event fields⟩] := by
  have hcovers : LogSetup.covers Governor.logger = true := by decide
  have hwrites : LogSetup.writes ⟨some .high, toFiles⟩
      ⟨.info, Governor.logger, s, LogEvent.message event fields⟩ = true := by
    simp [LogSetup.writes, LogSetup.threshold, LogLevel.rank, hcovers]
  rw [LogSetup.writtenAbout_singleton (LogEvent.name?_message h), if_pos hwrites]

theorem writtenAbout_other_line (h : LogEvent.IsName name) (hne : name ≠ event) :
    LogSetup.writtenAbout ⟨some .high, toFiles⟩ event [⟨.info, Governor.logger, s, LogEvent.message name fields⟩] =
      [] := by
  refine LogSetup.writtenAbout_eq_nil fun r hr heq => hne ?_
  obtain rfl := List.mem_singleton.mp hr
  exact Option.some.inj ((LogEvent.name?_message h).symm.trans heq)

end Lines

/-- Records that tell of some actions and of nothing else that a pass did, at high verbosity. -/
structure Booked (toFiles : Bool) (records : List LogRecord) (told : List (Scope × Action)) : Prop where
  lines : List.Forall₂ Action.ToldBy (LogSetup.writtenAbout ⟨some .high, toFiles⟩ "governance_action" records) told
  unfinished : LogSetup.writtenAbout ⟨some .high, toFiles⟩ "governance_pass_completed" records = []

variable {toFiles : Bool} {records records' : List LogRecord} {told told' : List (Scope × Action)}

theorem booked_foreign (h : ∀ r ∈ records, IsForeign r) : Booked toFiles records [] where
  lines := by
    rw [LogSetup.writtenAbout_eq_nil fun r hr => h r hr _ (by decide)]
    exact .nil
  unfinished := LogSetup.writtenAbout_eq_nil fun r hr => h r hr _ (by decide)

theorem Booked.append (h : Booked toFiles records told) (h' : Booked toFiles records' told') :
    Booked toFiles (records ++ records') (told ++ told') where
  lines := by
    rw [LogSetup.writtenAbout_append]
    exact List.rel_append h.lines h'.lines
  unfinished := by rw [LogSetup.writtenAbout_append, h.unfinished, h'.unfinished, List.append_nil]

theorem booked_action (a : Action) (s : Scope) :
    Booked toFiles [⟨.info, Governor.logger, s, LogEvent.message "governance_action" a.fields⟩] [(s, a)] where
  lines := by
    rw [writtenAbout_line (by decide)]
    exact .cons ⟨rfl, rfl, rfl, rfl⟩ .nil
  unfinished := writtenAbout_other_line (by decide) (by decide)

/-- A ledger, and those of its actions that are still to be told. -/
structure Books where
  ledger : Ledger
  untold : List Action

/-- A ledger all of whose actions have been told. -/
def Ledger.closed (l : Ledger) : Books :=
  ⟨l, []⟩

namespace Governor

variable {α β : Type} {g : Governor σ} {b : Books} {l : Ledger} {x : Act σ α} {of : α → Books}

/-- Actions that are planned in rehearsals, and only there. -/
def Plans (g : Governor σ) (actions : List Action) : Prop :=
  ∀ a ∈ actions, a.outcome = .planned ↔ g.rehearsal = true

theorem plans_append {actions actions' : List Action} (h : g.Plans actions) (h' : g.Plans actions') :
    g.Plans (actions ++ actions') :=
  List.forall_mem_append.mpr ⟨h, h'⟩

/-- An act that begins with some books, and adds to the log the lines of actions that it deals or that were untold.
The result holds the new books; of an act that fails there are none, but what it logged is accounted for all the same. -/
def Accounts (g : Governor σ) (toFiles : Bool) (b : Books) (x : Act σ α) (of : α → Books) : Prop :=
  ∀ s d, ∃ records told dealt, (x s d).2.log.toList = d.log.toList ++ records ∧
    Booked toFiles records (told.map (s, ·)) ∧ g.Plans dealt ∧
    ∀ a, (x s d).1 = .ok a →
      (of a).ledger.actions = b.ledger.actions ++ dealt ∧ b.untold ++ dealt = told ++ (of a).untold

theorem accounts_of_logs (hx : ∀ s, Logs s IsForeign x) : g.Accounts toFiles b x fun _ => b := by
  intro s d
  obtain ⟨records, hlog, hforeign⟩ := hx s d
  exact ⟨records, [], [], hlog, booked_foreign hforeign, nofun, fun a _ =>
    ⟨(List.append_nil _).symm, List.append_nil _⟩⟩

theorem accounts_pure {a : α} (h : of a = b) : g.Accounts toFiles b (pure a : Act σ α) of :=
  fun _ d => ⟨[], [], [], (List.append_nil _).symm, booked_foreign nofun, nofun, by
    rintro _ ⟨⟩
    rw [h]
    exact ⟨(List.append_nil _).symm, List.append_nil _⟩⟩

theorem accounts_fail (e : Failure) : g.Accounts toFiles b (fail e : Act σ α) of :=
  fun _ d => ⟨[], [], [], (List.append_nil _).symm, booked_foreign nofun, nofun, fun _ h => by cases h⟩

theorem Accounts.bind {f : α → Act σ β} {of' : β → Books} (hx : g.Accounts toFiles b x of)
    (hf : ∀ a, g.Accounts toFiles (of a) (f a) of') : g.Accounts toFiles b (x >>= f) of' := by
  intro s d
  obtain ⟨before, told, dealt, hbefore, hbooked, hplans, hof⟩ := hx s d
  rcases hend : x s d with ⟨e | a, d'⟩ <;> rw [hend] at hbefore hof
  · rw [bind_of_error f hend]
    exact ⟨before, told, dealt, hbefore, hbooked, hplans, fun _ h => by cases h⟩
  · obtain ⟨after, told', dealt', hafter, hbooked', hplans', hof'⟩ := hf a s d'
    obtain ⟨hledger, huntold⟩ := hof a rfl
    rw [bind_of_ok f hend]
    refine ⟨before ++ after, told ++ told', dealt ++ dealt', ?_, ?_, plans_append hplans hplans', fun c hc => ?_⟩
    · rw [hafter, hbefore, List.append_assoc]
    · rw [List.map_append]
      exact hbooked.append hbooked'
    · obtain ⟨hledger', huntold'⟩ := hof' c hc
      constructor
      · rw [hledger', hledger, List.append_assoc]
      · rw [← List.append_assoc, huntold, List.append_assoc, huntold', List.append_assoc]

/-- What is done after something that the accounts do not mention. -/
theorem accounts_after {f : α → Act σ β} {of' : β → Books} (hx : ∀ s, Logs s IsForeign x)
    (hf : ∀ a, g.Accounts toFiles b (f a) of') : g.Accounts toFiles b (x >>= f) of' :=
  (accounts_of_logs hx).bind hf

/-- What accounts for every end of an act accounts for the act. -/
theorem accounts_of_outcome {of' : Except Failure α → Books} (h : g.Accounts toFiles b (outcome x) of')
    (hof : ∀ a, of' (.ok a) = of a) : g.Accounts toFiles b x of := by
  intro s d
  obtain ⟨records, told, dealt, hlog, hbooked, hplans, hend⟩ := h s d
  refine ⟨records, told, dealt, hlog, hbooked, hplans, fun a ha => ?_⟩
  rw [← hof a]
  exact hend (.ok a) (congrArg Except.ok ha)

/-! ## One order -/

theorem outcomeOf_ne_planned (answer : Except HostError Unit) : outcomeOf answer ≠ .planned := by
  rcases answer with e | _
  · rw [outcomeOf]
    split <;> simp
  · simp [outcomeOf]

/-- A mutation is planned in rehearsals, and only there. -/
theorem planned_of_mutate {kind : ActionKind} {policy : Policy} {r : WorkflowRun} {x : ActionOutcome} {s : Scope}
    {d d' : Desk σ} (h : g.mutate kind policy r s d = (.ok x, d')) : x = .planned ↔ g.rehearsal = true := by
  cases hrehearsal : g.rehearsal with
  | true =>
    rw [g.mutate_of_rehearsal hrehearsal] at h
    cases h
    simp
  | false =>
    have hdone := h
    rw [mutate, hrehearsal, if_neg (by simp)] at hdone
    obtain ⟨answer, d₁, hattempt, -⟩ := ok_of_bind hdone
    obtain ⟨log, hmutate⟩ := g.mutate_of_answer policy answer hrehearsal (attempt_eq_ok.mp hattempt)
    have hx : outcomeOf answer = x := by
      rw [hmutate] at h
      exact Except.ok.inj (congrArg Prod.fst h)
    simpa [hx] using outcomeOf_ne_planned answer

/-- The books after an order was carried out, or not. -/
def enacted (l : Ledger) : Except Failure (Ledger × Option Action) → Books
  | .ok (l, action) => ⟨l, action.toList⟩
  | .error _ => l.closed

/-- Acting on a run adds an action to the ledger, which is then to be told, or it adds nothing; in particular nothing if
it fails. -/
theorem enact_accounts (hg : g.Discreet) (l : Ledger) (o : Order) :
    g.Accounts toFiles l.closed (outcome (g.enact o.kind o.policy o.reason l o.run)) (enacted l) := by
  rcases halready : l.already o.kind o.run.id with _ | _
  · intro s d
    obtain ⟨records, hlog, hforeign⟩ := mutate_foreign hg o.kind o.policy o.run s d
    rcases hmutate : g.mutate o.kind o.policy o.run s d with ⟨e | x, d'⟩ <;> rw [hmutate] at hlog
    · have hend : g.enact o.kind o.policy o.reason l o.run s d = (.error e, d') := by
        rw [enact_of_fresh halready, bind_of_error _ hmutate]
      refine ⟨records, [], [], by rw [outcome_apply, hend, hlog], booked_foreign hforeign, nofun, fun a ha => ?_⟩
      rw [outcome_apply, hend] at ha
      obtain rfl := Except.ok.inj ha
      exact ⟨(List.append_nil _).symm, rfl⟩
    · have hend := enact_of_outcome halready hmutate
      refine ⟨records, [], [o.action x], by rw [outcome_apply, hend, hlog], booked_foreign hforeign, ?_, fun a ha => ?_⟩
      · exact List.forall_mem_singleton.mpr (planned_of_mutate hmutate)
      · rw [outcome_apply, hend] at ha
        obtain rfl := Except.ok.inj ha
        exact ⟨Ledger.actions_record, rfl⟩
  · rw [enact_of_already halready]
    exact accounts_pure rfl

theorem tell_accounts (l : Ledger) (action : Option Action) :
    g.Accounts toFiles ⟨l, action.toList⟩ (tell action) fun _ => l.closed := by
  cases action with
  | none => exact accounts_pure rfl
  | some a =>
    intro s d
    refine ⟨_, [a], [], Array.toList_push, booked_action a s, nofun, fun _ _ => ?_⟩
    exact ⟨(List.append_nil _).symm, rfl⟩

theorem outcome_obey (l : Ledger) (o : Order) :
    outcome (g.obey l o) = outcome (g.enact o.kind o.policy o.reason l o.run) >>= fun ended =>
      match ended with
      | .ok (l, action) => tell action >>= fun _ => pure (.ok l)
      | .error e => pure (.error e) := by
  funext s d
  rcases henact : g.enact o.kind o.policy o.reason l o.run s d with ⟨e | ⟨l', action⟩, d'⟩
  · rw [bind_outcome _ henact, outcome_apply, obey_eq, bind_of_error _ henact]
    rfl
  · obtain ⟨log, htell⟩ := tell_notes action s d'
    rw [bind_outcome _ henact, outcome_apply, obey_eq, bind_of_ok _ henact]
    dsimp only
    rw [bind_of_ok _ htell, bind_of_ok _ htell]
    rfl

theorem obey_accounts (hg : g.Discreet) (l : Ledger) (o : Order) :
    g.Accounts toFiles l.closed (outcome (g.obey l o)) fun ended => (ended.toOption.getD l).closed := by
  rw [outcome_obey]
  refine (enact_accounts hg l o).bind fun ended => ?_
  rcases ended with e | ⟨l', action⟩
  · exact accounts_pure rfl
  · exact (tell_accounts l' action).bind fun _ => accounts_pure rfl

theorem obeyAll_accounts (hg : g.Discreet) (l : Ledger) (orders : List Order) :
    g.Accounts toFiles l.closed (g.obeyAll l orders) Ledger.closed := by
  induction orders generalizing l with
  | nil => exact accounts_pure rfl
  | cons o os ih =>
    have hfirst : g.Accounts toFiles l.closed (g.obey l o) Ledger.closed :=
      accounts_of_outcome (obey_accounts hg l o) fun _ => rfl
    rw [obeyAll_cons]
    exact hfirst.bind ih

/-! ## Queued duplicates -/

theorem cancelEach_accounts (hg : g.Discreet) (l : Ledger) (runs : List WorkflowRun) :
    g.Accounts toFiles l.closed (g.cancelEach l runs) fun p => p.1.closed := by
  induction runs generalizing l with
  | nil => exact accounts_pure rfl
  | cons r rs ih =>
    -- a fault ends the work with the ledger as it was before the order
    refine (obey_accounts hg l ⟨.duplicateQueued, .cancel, .superseded, r⟩).bind fun ended => ?_
    cases ended with
    | ok l' => exact ih l'
    | error e => exact accounts_pure rfl

theorem cancelDuplicates_accounts (hg : g.Discreet) (filter : RunFilter) (l : Ledger) :
    g.Accounts toFiles l.closed (g.cancelDuplicates filter l) fun p => p.1.closed := by
  refine accounts_after (fun s => (listRuns_foreign hg filter s).outcome) fun found => ?_
  rcases found with e | _ | runs
  · exact accounts_pure rfl
  · exact accounts_pure rfl
  · exact accounts_after (fun _ => logs_foreign (by decide) (by decide)) fun _ =>
      (cancelEach_accounts hg l (duplicateRuns runs)).bind fun _ => accounts_pure rfl

/-! ## The other policies -/

theorem purgeAll_accounts (hg : g.Discreet) (now : Stamp) (l : Ledger) (runs : List WorkflowRun) :
    g.Accounts toFiles l.closed (runs.foldlM (g.purgeRun now) l) Ledger.closed := by
  induction runs generalizing l with
  | nil => exact accounts_pure rfl
  | cons r rs ih =>
    have hrun : g.Accounts toFiles l.closed (g.purgeRun now l r) Ledger.closed := by
      cases hexpiry : r.expiry g.settings now with
      | error f =>
        rw [purgeRun, hexpiry]
        exact accounts_fail _
      | ok reason =>
        rw [purgeRun_eq hexpiry]
        exact obeyAll_accounts hg l _
    rw [List.foldlM_cons]
    exact hrun.bind ih

theorem purgePage_accounts (hg : g.Discreet) (now : Stamp) (l : Ledger) (page : Int) :
    g.Accounts toFiles l.closed (g.purgePage now l page) Ledger.closed := by
  refine accounts_after (fun s => (hg.runsPage s page).attempt) fun answer => ?_
  cases answer with
  | error e => exact accounts_after (fun _ => logs_foreign (by decide) (by decide)) fun _ => accounts_pure rfl
  | ok runs =>
    exact accounts_after (fun _ => logs_foreign (by decide) (by decide)) fun _ => purgeAll_accounts hg now l runs

theorem purgeDown_accounts (hg : g.Discreet) (now : Stamp) (page : Nat) (l : Ledger) :
    g.Accounts toFiles l.closed (g.purgeDown now page l) Ledger.closed := by
  induction page generalizing l with
  | zero => exact accounts_pure rfl
  | succ page ih => exact (purgePage_accounts hg now l _).bind ih

theorem sweepCancelled_accounts (hg : g.Discreet) (l : Ledger) :
    g.Accounts toFiles l.closed (g.sweepCancelled l) Ledger.closed := by
  refine accounts_after (listRuns_foreign hg _) fun found => ?_
  cases found with
  | none => exact accounts_pure rfl
  | some runs =>
    refine accounts_after (fun _ => logs_foreign (by decide) (by decide)) fun _ => ?_
    rw [sweep_eq]
    exact obeyAll_accounts hg l _

theorem prune_accounts (hg : g.Discreet) (pulls : List PullRequest) (l : Ledger) :
    g.Accounts toFiles l.closed (g.prune pulls l) Ledger.closed := by
  refine accounts_after (listRuns_foreign hg _) fun found => ?_
  cases found with
  | none => exact accounts_pure rfl
  | some runs =>
    refine accounts_after (fun _ => logs_foreign (by decide) (by decide)) fun _ => ?_
    rw [pruneAll_eq]
    exact obeyAll_accounts hg l _

theorem runPoliciesBy_eq (inBranches : Act σ (Ledger × Except Failure Unit)) :
    g.runPoliciesBy inBranches = inBranches >>= fun p => g.runPoliciesBy (pure p) := by
  simp only [runPoliciesBy, cancelQueuedBy, bind_assoc, pure_bind]

theorem runPoliciesBy_accounts (hg : g.Discreet) (p : Ledger × Except Failure Unit) :
    g.Accounts toFiles p.1.closed (g.runPoliciesBy (pure p)) Ledger.closed := by
  have hqueued : g.Accounts toFiles p.1.closed (g.cancelQueuedBy (pure p)) fun q => q.1.closed := by
    rw [cancelQueuedBy, pure_bind]
    refine accounts_after (fun _ => logs_conclude p.2) fun _ => ?_
    refine (cancelDuplicates_accounts hg _ p.1).bind fun queued => ?_
    exact accounts_after (fun _ => logs_conclude queued.2) fun _ => accounts_pure rfl
  refine hqueued.bind fun found => accounts_after (openPullRequests_foreign hg) fun pulls => ?_
  have hpurge : ∀ l, g.Accounts toFiles (Ledger.closed l) (g.purge l) Ledger.closed := fun l =>
    accounts_after hg.clock fun now => purgeDown_accounts hg now _ l
  cases pulls with
  | none =>
    have hnone : g.Accounts toFiles found.1.closed (pure found.1 : Act σ Ledger) Ledger.closed := accounts_pure rfl
    refine hnone.bind fun l => (hpurge l).bind fun l => ?_
    exact (sweepCancelled_accounts hg l).bind fun l => accounts_pure rfl
  | some pulls =>
    have horphans : g.Accounts toFiles found.1.closed (g.clearOrphans found.2 pulls found.1) Ledger.closed := by
      rw [clearOrphans_eq]
      exact obeyAll_accounts hg _ _
    refine horphans.bind fun l => (hpurge l).bind fun l => ?_
    exact (sweepCancelled_accounts hg l).bind fun l => prune_accounts hg pulls l

end Governor

end RunSteward
