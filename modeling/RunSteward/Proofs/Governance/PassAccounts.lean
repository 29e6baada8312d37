import RunSteward.Proofs.Governance.CalendarEnd
import RunSteward.Proofs.Governance.PoolAccounts
import RunSteward.Proofs.Log.Readback

/-!
# The accounts of a pass

An operator sees what a pass did in three places: in the report, in the log, and in the counters of the line that ends
the log of the pass. The three agree (`pass_accounts`): the log has one line for each action of the report, and the
counters sort the actions into five classes that leave none out. The lines are in the order of the actions as far as
threads have one: a worker of the pool tells its actions in the order in which it dealt them, and after the pool the
lines
follow one by one. Lines of different workers can be in another order than the actions (`lines_out_of_order`). A pass
that
breaks off leaves neither report nor counters, only the lines of what it did before (`unclosed_of_error`).
-/

namespace RunSteward

open Act

variable {σ : Type}

/-! ## Counters -/

/-- The counters of a pass. -/
inductive PassCounter where
  | cancelled
  | removed
  | planned
  | noop
  | failed
deriving DecidableEq

/-- The counter that counts the actions of a kind and an outcome. -/
def PassCounter.of : ActionKind → ActionOutcome → PassCounter
  | .cancel, .done => .cancelled
  | .remove, .done => .removed
  | _, .planned => .planned
  | _, .noop => .noop
  | _, .failed => .failed

theorem PassCounter.of_eq_planned (kind : ActionKind) (outcome : ActionOutcome) :
    PassCounter.of kind outcome = .planned ↔ outcome = .planned := by
  cases kind <;> cases outcome <;> decide

namespace Report

/-- What a counter comes to. -/
def tally (r : Report) (c : PassCounter) : Nat :=
  r.actions.countP fun a => PassCounter.of a.kind a.outcome = c

/-- The fields of the line that ends the log of a pass. -/
def counters (r : Report) (rehearsal : Bool) : LogFields := [
  ("dry_run", .flag rehearsal), ("cancelled", .int (r.tally .cancelled)), ("removed", .int (r.tally .removed)),
  ("planned", .int (r.tally .planned)), ("noop", .int (r.tally .noop)), ("failed", .int (r.tally .failed))]

variable {r : Report}

theorem count_eq_tally {kind? : Option ActionKind} {outcome? : Option ActionOutcome} {c : PassCounter}
    (h : ∀ kind outcome, ((kind?.all fun k => kind == k) && (outcome?.all fun o => outcome == o)) = true ↔
      PassCounter.of kind outcome = c) : r.count kind? outcome? = r.tally c :=
  List.countP_congr fun a _ => by rw [h a.kind a.outcome, decide_eq_true_iff]

theorem counters_eq (r : Report) (rehearsal : Bool) :
    r.counters rehearsal = [
      ("dry_run", .flag rehearsal), ("cancelled", .int (r.count (some .cancel) (some .done))),
      ("removed", .int (r.count (some .remove) (some .done))), ("planned", .int (r.count none (some .planned))),
      ("noop", .int (r.count none (some .noop))), ("failed", .int (r.count none (some .failed)))] := by
  rw [counters, count_eq_tally (c := .cancelled), count_eq_tally (c := .removed), count_eq_tally (c := .planned),
    count_eq_tally (c := .noop), count_eq_tally (c := .failed)]
  all_goals
    intro kind outcome
    cases kind <;> cases outcome <;> decide

/-- The counters leave no action out, and count none twice. -/
theorem tally_total (r : Report) :
    r.tally .cancelled + r.tally .removed + r.tally .planned + r.tally .noop + r.tally .failed = r.actions.length := by
  obtain ⟨actions⟩ := r
  simp only [tally]
  induction actions with
  | nil => rfl
  | cons a actions ih =>
    simp only [List.countP_cons, List.length_cons]
    cases PassCounter.of a.kind a.outcome <;> simp <;> omega

end Report

/-! ## The text of a line -/

def Action.sortedFields (a : Action) : LogFields := [
  ("action", .text a.kind.name), ("head_branch", .text a.headBranch), ("outcome", .text a.outcome.name),
  ("policy", .text a.policy.name), ("reason", .text a.reason), ("run_id", .int a.runId), ("workflow", .text a.runName)]

theorem Action.message_eq (a : Action) : LogEvent.message "governance_action" a.fields =
    String.ofList ([' '].intercalate
      ((("event", .text "governance_action") :: a.sortedFields).map LogEvent.pairText)) := by
  have hkeys : (a.fields.map Prod.fst).Nodup := by
    change ["policy", "action", "run_id", "workflow", "head_branch", "reason", "outcome"].Nodup
    decide
  have hsorted : (a.sortedFields.map Prod.fst).Pairwise fun k k' => k ≠ k' ∧ decide (k ≤ k') = true := by
    change ["action", "head_branch", "outcome", "policy", "reason", "run_id", "workflow"].Pairwise _
    decide
  have hperm : a.fields.Perm a.sortedFields := by
    have hnodup : (a.sortedFields.map Prod.fst).Nodup := hsorted.imp And.left
    refine (List.perm_ext_iff_of_nodup hkeys.of_map hnodup.of_map).mpr fun p => ?_
    simp only [fields, sortedFields, List.mem_cons, List.not_mem_nil, or_false]
    tauto
  have hinorder : a.sortedFields.Pairwise fun p q => decide (p.1 ≤ q.1) = true :=
    (List.pairwise_map.mp hsorted).imp And.right
  rw [LogEvent.message, LogEvent.sortFields_perm hperm hkeys, LogEvent.sortFields, List.mergeSort_of_pairwise hinorder]

namespace Governor

def opening (g : Governor σ) (branches : List Branch) (s : Scope) : LogRecord :=
  ⟨.info, logger, s, LogEvent.message "governance_pass_started"
    [("branch_count", .int branches.length), ("dry_run", .flag g.rehearsal)]⟩

def closing (g : Governor σ) (report : Report) (s : Scope) : LogRecord :=
  ⟨.info, logger, s, LogEvent.message "governance_pass_completed" (report.counters g.rehearsal)⟩

/-- A log at high verbosity that agrees with the report of a pass: what was told by the workers of the pool and by the
caller after that, what was dealt, and the counters. -/
structure Agrees (g : Governor σ) (toFiles : Bool) (s : Scope) (records : List LogRecord) (told dealt : List (Nat × Action))
    (later : List Action) (report : Report) : Prop where
  lines : List.Forall₂ Action.ToldBy (LogSetup.writtenAbout ⟨some .high, toFiles⟩ "governance_action" records)
    (inWorkers s told ++ later.map (s, ·))
  actions : report.actions = dealt.map Prod.snd ++ later
  pooled : told.Perm dealt
  ordered : SameByWorker told dealt
  single : g.workers ≤ 1 → told = dealt
  counters : LogSetup.writtenAbout ⟨some .high, toFiles⟩ "governance_pass_completed" records = [g.closing report s]
  total : report.tally .cancelled + report.tally .removed + report.tally .planned + report.tally .noop
    + report.tally .failed = report.actions.length
  rehearsed : g.rehearsal = true → ∀ c, c ≠ .planned → report.tally c = 0
  performed : g.rehearsal = false → report.tally .planned = 0

variable {g : Governor σ} {toFiles : Bool} {turns : List Nat} {branches : List Branch} {s : Scope} {d : Desk σ}
  {report : Report}

/-- What the workers told and dealt, and what came then. It is in the ledger, if the policies give one. -/
theorem policies_booked (hg : g.Discreet) (toFiles : Bool) (turns : List Nat) (branches : List Branch) (s : Scope)
    (d : Desk σ) : ∃ records told dealt later,
      (g.runPoliciesBy (g.cancelInPool turns {} branches) s d).2.log.toList = d.log.toList ++ records ∧
      Booked toFiles records (inWorkers s told ++ later.map (s, ·)) ∧
      ∀ l, (g.runPoliciesBy (g.cancelInPool turns {} branches) s d).1 = .ok l →
        l.actions = dealt.map Prod.snd ++ later ∧ SameByWorker told dealt ∧ (g.workers ≤ 1 → told = dealt) ∧
          g.Plans l.actions := by
  rw [runPoliciesBy_eq]
  have hworkers : g.PoolAccounts toFiles {} [] (g.cancelInPool turns {} branches) fun p => (p.1, []) :=
    cancelInPool_accounts hg turns {} branches
  obtain ⟨before, told, dealt, hbefore, hbooked, hplans, hhired, hof⟩ := hworkers s d
  rcases hpool : g.cancelInPool turns {} branches s d with ⟨e | p, d₁⟩ <;> rw [hpool] at hbefore hof
  · rw [bind_of_error _ hpool]
    refine ⟨before, told, dealt, [], hbefore, ?_, fun l hl => by cases hl⟩
    rwa [List.map_nil, List.append_nil]
  · have hcaller : g.Accounts toFiles p.1.closed (g.runPoliciesBy (pure p)) Ledger.closed :=
      runPoliciesBy_accounts hg p
    obtain ⟨after, later, later', hafter, hbooked', hplans', hof'⟩ := hcaller s d₁
    rw [bind_of_ok _ hpool]
    refine ⟨before ++ after, told, dealt, later, ?_, hbooked.append hbooked', fun l hl => ?_⟩
    · rw [hafter, hbefore, List.append_assoc]
    obtain ⟨hdealt, hsame⟩ := hof p rfl
    obtain ⟨hactions, htold⟩ := hof' l hl
    rw [List.nil_append, List.append_nil] at hsame
    have hsame : SameByWorker told dealt := hsame.symm
    obtain rfl : later' = later := htold.trans (List.append_nil _)
    have hdealt : p.1.actions = dealt.map Prod.snd := hdealt.trans (List.nil_append _)
    have hall : l.actions = dealt.map Prod.snd ++ later' := hdealt ▸ hactions
    refine ⟨hall, hsame, fun hsingle => hsame.eq_of_single fun x hx => ?_, ?_⟩
    · have hx := hhired x hx
      omega
    · rw [hall]
      exact plans_append hplans hplans'

/-- What is left of a pass when all policies have been applied. -/
def signOff (g : Governor σ) (l : Ledger) : Act σ Report :=
  Act.info logger "governance_pass_completed" (l.report.counters g.rehearsal) >>= fun _ => pure l.report

theorem runPassBy_apply (g : Governor σ) (turns : List Nat) (branches : List Branch) (s : Scope) (d : Desk σ) :
    g.runPassBy turns branches s d = (g.runPoliciesBy (g.cancelInPool turns {} branches) >>= g.signOff) s
      { d with log := d.log.push (g.opening branches s) } := by
  unfold signOff
  simp only [Report.counters_eq]
  rfl

/-- A pass that gives a report has applied all policies, between two lines of its log. -/
theorem policies_of_runPassBy (h : (g.runPassBy turns branches s d).1 = .ok report) :
    ∃ l d', g.runPoliciesBy (g.cancelInPool turns {} branches) s { d with log := d.log.push (g.opening branches s) } =
        (.ok l, d') ∧
      l.report = report ∧ (g.runPassBy turns branches s d).2.log.toList = d'.log.toList ++ [g.closing report s] := by
  rw [runPassBy_apply] at h ⊢
  rcases hpolicies : g.runPoliciesBy (g.cancelInPool turns {} branches) s
    { d with log := d.log.push (g.opening branches s) } with ⟨e | l, d'⟩
  · rw [bind_of_error _ hpolicies] at h
    cases h
  · rw [bind_of_ok _ hpolicies] at h ⊢
    obtain rfl : l.report = report := Except.ok.inj h
    exact ⟨l, d', rfl, rfl, Array.toList_push⟩

/-- A pass that gives no report ends with the policies. -/
theorem runPassBy_of_error {e : Failure} (h : (g.runPassBy turns branches s d).1 = .error e) :
    (g.runPassBy turns branches s d).2 =
      (g.runPoliciesBy (g.cancelInPool turns {} branches) s { d with log := d.log.push (g.opening branches s) }).2 := by
  rw [runPassBy_apply] at h ⊢
  rcases hpolicies : g.runPoliciesBy (g.cancelInPool turns {} branches) s
    { d with log := d.log.push (g.opening branches s) } with ⟨e' | l, d'⟩
  · rw [bind_of_error _ hpolicies]
  · rw [bind_of_ok _ hpolicies] at h
    cases h

theorem booked_opening : Booked toFiles [g.opening branches s] [] :=
  booked_foreign fun r hr => by
    obtain rfl := List.mem_singleton.mp hr
    exact isForeign_message (by decide) (by decide)

theorem runPassBy_agrees (hg : g.Discreet) (toFiles : Bool) (h : (g.runPassBy turns branches s d).1 = .ok report) :
    ∃ records told dealt later, (g.runPassBy turns branches s d).2.log.toList = d.log.toList ++ records ∧
      g.Agrees toFiles s records told dealt later report := by
  obtain ⟨l, d', hpolicies, rfl, hend⟩ := policies_of_runPassBy h
  obtain ⟨records, told, dealt, later, hlog, hbooked, hof⟩ :=
    policies_booked hg toFiles turns branches s { d with log := d.log.push (g.opening branches s) }
  rw [hpolicies] at hlog hof
  obtain ⟨hactions, hsame, hsingle, hplans⟩ := hof l rfl
  have hworked : Booked toFiles (g.opening branches s :: records) (inWorkers s told ++ later.map (s, ·)) :=
    booked_opening.append hbooked
  have hzero : ∀ c, (∀ a ∈ l.report.actions, PassCounter.of a.kind a.outcome ≠ c) → l.report.tally c = 0 :=
    fun c hnone => List.countP_eq_zero.mpr fun a ha => by simpa using hnone a ha
  refine ⟨g.opening branches s :: records ++ [g.closing l.report s], told, dealt, later, ?_, ?_⟩
  · rw [hend, hlog, Array.toList_push]
    simp only [List.append_assoc, List.cons_append, List.nil_append]
  exact {
    lines := by
      rw [LogSetup.writtenAbout_append, closing, writtenAbout_other_line (by decide) (by decide), List.append_nil]
      exact hworked.lines
    actions := hactions
    pooled := hsame.perm
    ordered := hsame
    single := hsingle
    counters := by
      rw [LogSetup.writtenAbout_append, hworked.unfinished, closing, writtenAbout_line (by decide), List.nil_append]
    total := l.report.tally_total
    rehearsed := fun hrehearsal c hc => hzero c fun a ha heq => hc (by
      rw [← heq, PassCounter.of_eq_planned, hplans a ha, hrehearsal])
    performed := fun hreal => hzero .planned fun a ha heq => by
      rw [PassCounter.of_eq_planned, hplans a ha, hreal] at heq
      cases heq }

/-- **The log, the report and the counters of a pass agree.** Of a pass that gives a report, in whatever turns the
workers
of the pool did their part, the log at high verbosity has one line for each action of the report and one line with the
counters. The lines of each worker are in the order of its actions, and with a single worker all are; the lines of what
came after the pool are in order in any case. Each action is counted by just one counter. In a rehearsal all actions are
planned, and outside of rehearsals none is. -/
theorem pass_accounts (g : Governor σ) (hg : g.Discreet) (turns : List Nat) (branches : List Branch) (toFiles : Bool)
    (s : Scope) (d : Desk σ) (report : Report) (h : (g.runPassBy turns branches s d).1 = .ok report) :
    ∃ records told dealt later, (g.runPassBy turns branches s d).2.log.toList = d.log.toList ++ records ∧
      g.Agrees toFiles s records told dealt later report :=
  runPassBy_agrees hg toFiles h

/-- So they do when the pass goes over a gateway, whatever its station answers: of all that is logged about requests and
replies nothing can be taken for a line of the pass. -/
theorem gateway_pass_accounts {gateway : Gateway σ} {pageLimit : Nat} {g : Governor (Session σ)}
    (hhost : g.host = gateway.host pageLimit) (hclock : g.clock = gateway.clock) (turns : List Nat)
    (branches : List Branch) (toFiles : Bool) (s : Scope) (d : Desk (Session σ)) (report : Report)
    (h : (g.runPassBy turns branches s d).1 = .ok report) :
    ∃ records told dealt later, (g.runPassBy turns branches s d).2.log.toList = d.log.toList ++ records ∧
      g.Agrees toFiles s records told dealt later report := by
  have hdiscreet : g.Discreet := discreet_of_gateway hhost fun _ => by
    rw [hclock]
    exact logs_of_still fun _ => rfl
  exact runPassBy_agrees hdiscreet toFiles h

/-- **A pass that breaks off has no closing line**, whatever it did and told before. -/
theorem unclosed_of_error (hg : g.Discreet) (toFiles : Bool) {e : Failure}
    (h : (g.runPassBy turns branches s d).1 = .error e) :
    ∃ records, (g.runPassBy turns branches s d).2.log.toList = d.log.toList ++ records ∧
      LogSetup.writtenAbout ⟨some .high, toFiles⟩ "governance_pass_completed" records = [] := by
  obtain ⟨records, _, _, _, hlog, hbooked, -⟩ :=
    policies_booked hg toFiles turns branches s { d with log := d.log.push (g.opening branches s) }
  refine ⟨g.opening branches s :: records, ?_, ?_⟩
  · rw [runPassBy_of_error h, hlog, Array.toList_push, List.append_assoc, List.singleton_append]
  · rw [← List.singleton_append, LogSetup.writtenAbout_append, hbooked.unfinished, booked_opening.unfinished,
      List.append_nil]

/-! ### Lines that change places -/

/-- Two queued runs of each of two branches. -/
def twinDesk : Desk RunStore :=
  ⟨⟨[RunStore.queuedRun 2 "main" "push", RunStore.queuedRun 1 "main" "push", RunStore.queuedRun 4 "dev" "push",
    RunStore.queuedRun 3 "dev" "push"], [], by decide⟩, #[]⟩

/-- A governor with two workers. -/
def twinGovernor : Governor RunStore :=
  (RunStore.governor RunStore.answer default).withWorkers 2

/-- The first worker cancels a run of the main branch, and the second one goes through the other branch before the first
one gets to telling. -/
def overtaking : List Nat :=
  [0, 0, 0, 1, 1, 1, 1]

def mainCancelled : Action :=
  ⟨.duplicateQueued, .cancel, 1, "build", "main", "superseded_by_newer_run", .done⟩

def devCancelled : Action :=
  ⟨.duplicateQueued, .cancel, 3, "build", "dev", "superseded_by_newer_run", .done⟩

def twinReport : Report :=
  ⟨[mainCancelled, devCancelled,
    ⟨.cancelledSweep, .remove, 1, "build", "main", "cancelled", .done⟩,
    ⟨.cancelledSweep, .remove, 3, "build", "dev", "cancelled", .done⟩]⟩

theorem twinGovernor_discreet : twinGovernor.Discreet where
  page := (RunStore.governor_discreet RunStore.answer default).page
  runsPage := (RunStore.governor_discreet RunStore.answer default).runsPage
  request s kind r := by
    rw [twinGovernor, request_withWorkers]
    exact (RunStore.governor_discreet RunStore.answer default).request s kind r
  clock := (RunStore.governor_discreet RunStore.answer default).clock

theorem pass_accounts_twins :
    (twinGovernor.runPassBy overtaking [⟨"main", ""⟩, ⟨"dev", ""⟩] {} twinDesk).1 = .ok twinReport ∧
      (twinReport.tally .cancelled, twinReport.tally .removed) = (2, 2) ∧
      ∃ records told dealt later,
        (twinGovernor.runPassBy overtaking [⟨"main", ""⟩, ⟨"dev", ""⟩] {} twinDesk).2.log.toList =
          twinDesk.log.toList ++ records ∧
        twinGovernor.Agrees true {} records told dealt later twinReport := by
  have hreport : (twinGovernor.runPassBy overtaking [⟨"main", ""⟩, ⟨"dev", ""⟩] {} twinDesk).1 = .ok twinReport := by
    decide +kernel
  exact ⟨hreport, by decide, pass_accounts twinGovernor twinGovernor_discreet overtaking
    [⟨"main", ""⟩, ⟨"dev", ""⟩] true {} twinDesk twinReport hreport⟩

/-- What the workers told in their turns stands first in the log of the policies. -/
theorem turns_booked (hg : g.Discreet) (toFiles : Bool) {l : Ledger} {d' : Desk σ}
    (h : g.runPoliciesBy (g.cancelInPool turns {} branches) s d = (.ok l, d')) :
    ∃ p records told dealt more, (g.takeTurns {} (branches.map g.taskOf) turns s d).1 = .ok p ∧
      d'.log.toList = d.log.toList ++ (records ++ more) ∧ Booked toFiles records (inWorkers s told) ∧
      p.1.actions = dealt.map Prod.snd ∧ SameByWorker dealt (told ++ untold p.2) := by
  rw [runPoliciesBy_eq, cancelInPool, bind_assoc] at h
  obtain ⟨⟨l₁, tasks⟩, d₁, hturns, hthen⟩ := ok_of_bind h
  obtain ⟨q, d₂, hfinish, hrest⟩ := ok_of_bind hthen
  have hfresh : g.Manned (branches.map g.taskOf) := manned_fresh branches
  have hworkers : g.PoolAccounts toFiles {} [] (g.takeTurns {} (branches.map g.taskOf) turns) fun p =>
      (p.1, untold p.2) := by
    rw [← untold_fresh (g := g) branches]
    exact takeTurns_accounts hg hfresh {} turns
  have hfinished : g.PoolAccounts toFiles l₁ (untold tasks) (g.finishAll l₁ tasks) fun q => (q.1, []) :=
    finishAll_accounts hg (takeTurns_manned hfresh hturns) l₁
  have hcaller : g.Accounts toFiles q.1.closed (g.runPoliciesBy (pure q)) Ledger.closed := runPoliciesBy_accounts hg q
  obtain ⟨records, told, dealt, hlog, hbooked, -, -, hof⟩ := hworkers s d
  obtain ⟨more, -, -, hmore, -⟩ := hfinished s d₁
  obtain ⟨still, -, -, hstill, -⟩ := hcaller s d₂
  rw [hturns] at hlog hof
  obtain ⟨hactions, hsame⟩ := hof _ rfl
  refine ⟨_, records, told, dealt, more ++ still, congrArg Prod.fst hturns, ?_, hbooked, ?_, hsame⟩
  · have hmore : d₂.log.toList = d₁.log.toList ++ more := by
      rw [← hmore]
      exact congrArg (fun r => r.2.log.toList) hfinish.symm
    have hstill : d'.log.toList = d₂.log.toList ++ still := by
      rw [← hstill, hrest]
    rw [hstill, hmore, hlog, List.append_assoc, List.append_assoc]
  · exact hactions.trans (List.nil_append _)

/-- Tells that the lines of a log are about the actions of a report, in order. -/
def InOrder (report : Report) (log : List LogRecord) : Prop :=
  ∃ told : List (Scope × Action), told.map Prod.snd = report.actions ∧
    List.Forall₂ Action.ToldBy (LogSetup.writtenAbout ⟨some .high, true⟩ "governance_action" log) told

/-- The first two actions are told in the opposite order. -/
theorem lines_out_of_order :
    (twinGovernor.runPassBy overtaking [⟨"main", ""⟩, ⟨"dev", ""⟩] {} twinDesk).1 = .ok twinReport ∧
      ¬InOrder twinReport
        (twinGovernor.runPassBy overtaking [⟨"main", ""⟩, ⟨"dev", ""⟩] {} twinDesk).2.log.toList := by
  have hreport : (twinGovernor.runPassBy overtaking [⟨"main", ""⟩, ⟨"dev", ""⟩] {} twinDesk).1 = .ok twinReport := by
    decide +kernel
  refine ⟨hreport, ?_⟩
  rintro ⟨told', hactions', hlines'⟩
  obtain ⟨l, d', hpolicies, -, hend⟩ := policies_of_runPassBy hreport
  obtain ⟨p, records, told, dealt, more, hturns, hlog, hbooked, hactions, hsame⟩ :=
    turns_booked twinGovernor_discreet true hpolicies
  -- after the turns both actions are on the ledger, and the first worker has not told the first one
  have hstate : ((twinGovernor.takeTurns {} ([⟨"main", ""⟩, ⟨"dev", ""⟩].map twinGovernor.taskOf) overtaking {}
      { twinDesk with log := twinDesk.log.push (twinGovernor.opening [⟨"main", ""⟩, ⟨"dev", ""⟩] {}) }).1.toOption.map
        fun p => (p.1.actions, untold p.2)) = some ([mainCancelled, devCancelled], [(0, mainCancelled)]) := by
    decide +kernel
  rw [hturns] at hstate
  obtain ⟨hledger, huntold⟩ := Prod.mk.inj (Option.some.inj hstate)
  rw [huntold] at hsame
  have hperm : [mainCancelled, devCancelled].Perm (told.map Prod.snd ++ [mainCancelled]) := by
    rw [← hledger, hactions]
    simpa using hsame.perm.map Prod.snd
  obtain ⟨x, rfl⟩ : ∃ x, told = [x] := List.length_eq_one_iff.mp (by simpa using hperm.length_eq.symm)
  have hx : x.2 = devCancelled := by
    have hmem : devCancelled ∈ [x.2, mainCancelled] := hperm.subset (by simp)
    simpa [devCancelled, mainCancelled, eq_comm] using hmem
  -- so the first line is that of the second action
  obtain ⟨r, rest, htold, hnil, hwritten⟩ := List.forall₂_cons_right_iff.mp hbooked.lines
  obtain rfl : rest = [] := List.forall₂_nil_right_iff.mp hnil
  have hfirst : LogSetup.writtenAbout ⟨some .high, true⟩ "governance_action"
      (twinGovernor.runPassBy overtaking [⟨"main", ""⟩, ⟨"dev", ""⟩] {} twinDesk).2.log.toList =
        r :: LogSetup.writtenAbout ⟨some .high, true⟩ "governance_action"
          (more ++ [twinGovernor.closing twinReport {}]) := by
    have hopening : LogSetup.writtenAbout ⟨some .high, true⟩ "governance_action"
        [twinGovernor.opening [⟨"main", ""⟩, ⟨"dev", ""⟩] {}] = [] := List.forall₂_nil_right_iff.mp booked_opening.lines
    rw [hend, hlog, Array.toList_push, twinDesk, List.nil_append]
    simp only [LogSetup.writtenAbout_append, hopening, hwritten]
    rfl
  rw [hfirst] at hlines'
  obtain ⟨y, later, hfirst', -, rfl⟩ := List.forall₂_cons_left_iff.mp hlines'
  have hy : y.2 = mainCancelled := (List.cons.inj hactions').1
  have hsame : LogEvent.message "governance_action" mainCancelled.fields =
      LogEvent.message "governance_action" devCancelled.fields := by
    rw [← hy, ← hx, ← hfirst'.message]
    exact htold.message
  rw [Action.message_eq, Action.message_eq] at hsame
  revert hsame
  decide +kernel

/-! ### A pass without accounts -/

/-- A store of a run that expired long ago, and of one that was last updated on the last day of the calendar. -/
def expiredFirstDesk : Desk RunStore :=
  ⟨⟨[RunStore.queuedRun 1 "main" "push", RunStore.lastDayRun], [], by decide⟩, #[]⟩

def expiredFirstGovernor : Governor RunStore :=
  RunStore.governor RunStore.answer RunStore.march

/-- The run that expired is removed, and then the pass breaks off over the other one. -/
theorem removal_unaccounted :
    (expiredFirstGovernor.runPassBy [] [] {} expiredFirstDesk).1 = .error (.fault .dateOutOfRange) ∧
      (expiredFirstGovernor.runPassBy [] [] {} expiredFirstDesk).2.world.runs = [RunStore.lastDayRun] ∧
      LogSetup.writtenAbout ⟨some .high, true⟩ "governance_pass_completed"
        (expiredFirstGovernor.runPassBy [] [] {} expiredFirstDesk).2.log.toList = [] := by
  have hbroken : (expiredFirstGovernor.runPassBy [] [] {} expiredFirstDesk).1 = .error (.fault .dateOutOfRange) := by
    decide +kernel
  have hdiscreet : expiredFirstGovernor.Discreet := RunStore.governor_discreet RunStore.answer RunStore.march
  obtain ⟨records, hlog, hnone⟩ := unclosed_of_error hdiscreet true hbroken
  refine ⟨hbroken, by decide +kernel, ?_⟩
  rw [hlog]
  exact hnone

/-- **The lines need not be in the order of the report, and there need not be a report for them.** -/
theorem accounts_disagree :
    ((twinGovernor.runPassBy overtaking [⟨"main", ""⟩, ⟨"dev", ""⟩] {} twinDesk).1 = .ok twinReport ∧
      ¬InOrder twinReport
        (twinGovernor.runPassBy overtaking [⟨"main", ""⟩, ⟨"dev", ""⟩] {} twinDesk).2.log.toList) ∧
    (expiredFirstGovernor.runPassBy [] [] {} expiredFirstDesk).1 = .error (.fault .dateOutOfRange) ∧
      (expiredFirstGovernor.runPassBy [] [] {} expiredFirstDesk).2.world.runs = [RunStore.lastDayRun] ∧
      LogSetup.writtenAbout ⟨some .high, true⟩ "governance_pass_completed"
        (expiredFirstGovernor.runPassBy [] [] {} expiredFirstDesk).2.log.toList = [] :=
  ⟨lines_out_of_order, removal_unaccounted⟩

end Governor

end RunSteward
