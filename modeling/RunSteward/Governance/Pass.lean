import RunSteward.Governance.Duplicates
import RunSteward.Governance.Ledger
import RunSteward.Governance.Retention
import RunSteward.Host

/-!
# Governance passes

A pass applies five policies in turn: it cancels queued duplicates, clears queued runs of pull requests that are gone,
removes expired runs, sweeps cancelled ones and prunes runs of pull requests that nobody vouches for. A listing that is
refused takes away only the work that depends on it. In a rehearsal nothing is changed and every action is planned.
-/

namespace RunSteward

variable {σ : Type}

/-- The event of a run that a pull request started. -/
def pullRequestEvent : String := "pull_request"

namespace RunFilter

def queuedOn (b : Branch) : RunFilter :=
  { branch := some b.name, status := some "queued" }

def queuedOfPulls : RunFilter :=
  { event := some pullRequestEvent, status := some "queued" }

def cancelled : RunFilter :=
  { status := some "cancelled" }

def ofPulls : RunFilter :=
  { event := some pullRequestEvent }

end RunFilter

structure Governor (σ : Type) where
  host : Host σ
  settings : GovernanceSettings
  clock : Act σ Stamp
  rehearsal : Bool
  workers : Nat

namespace Governor

def logger : String := "repowarden.governor"

/-- A governor with at least one worker. -/
def of? (host : Host σ) (settings : GovernanceSettings) (clock : Act σ Stamp) (workers : Int)
    (rehearsal : Bool) : Except Fault (Governor σ) :=
  if workers < 1 then .error .workerCount else .ok ⟨host, settings, clock, rehearsal, workers.toNat⟩

/-! ## Acting on a run -/

/-- The request that carries out an action. -/
def request (g : Governor σ) (kind : ActionKind) (r : WorkflowRun) : Act σ Unit :=
  match kind with
  | .cancel => g.host.cancelRun r
  | .remove => g.host.removeRun r

/-- The outcome of a request: a run that is gone or in another state already needs nothing more. -/
def outcomeOf : Except HostError Unit → ActionOutcome
  | .ok () => .done
  | .error e => if e.kind = .notFound ∨ e.kind = .conflict then .noop else .failed

/-- Carries out an action, unless this is a rehearsal. -/
def mutate (g : Governor σ) (kind : ActionKind) (policy : Policy) (r : WorkflowRun) :
    Act σ ActionOutcome := do
  if g.rehearsal then return .planned
  else
    let answer ← Act.attempt (g.request kind r)
    match answer, outcomeOf answer with
    | .error e, .failed =>
      Act.warn logger ("workflow_run_" ++ kind.name ++ "_failed")
        ([("policy", .text policy.name), ("run_id", .int r.id)] ++ Act.errorFields e)
      return .failed
    | _, outcome => return outcome

/-- Acts on a run, unless the ledger says that this would be a repetition, and gives the action that is on the ledger
then. Nobody else acts on the run meanwhile. -/
def enact (g : Governor σ) (kind : ActionKind) (policy : Policy) (reason : Reason) (l : Ledger)
    (r : WorkflowRun) : Act σ (Ledger × Option Action) := do
  if l.already kind r.id then return (l, none)
  else
    let outcome ← g.mutate kind policy r
    let action := ⟨policy, kind, r.id, r.name, r.headBranch, reason.text, outcome⟩
    return (l.record action, some action)

/-- Logs an action, if there was one. -/
def tell : Option Action → Act σ Unit
  | none => pure ()
  | some a => Act.info logger "governance_action" a.fields

/-- Acts on a run and logs the action. -/
def apply (g : Governor σ) (kind : ActionKind) (policy : Policy) (reason : Reason) (l : Ledger)
    (r : WorkflowRun) : Act σ Ledger := do
  let (l, action) ← g.enact kind policy reason l r
  tell action
  return l

/-- Removes a run; an active one is cancelled first. -/
def cancelThenRemove (g : Governor σ) (policy : Policy) (reason : Reason) (l : Ledger)
    (r : WorkflowRun) : Act σ Ledger := do
  let l ← if r.isActive then g.apply .cancel policy reason l r else pure l
  g.apply .remove policy reason l r

/-! ## Listings -/

/-- Logs that a listing of runs was refused. -/
def noteRefused (filter : RunFilter) (e : HostError) : Act σ Unit :=
  Act.warn logger "workflow_runs_fetch_failed"
    ([("branch", .maybe filter.branch), ("event_filter", .maybe filter.event),
      ("status_filter", .maybe filter.status)] ++ Act.errorFields e)

/-- The runs of a listing, or nothing if a page of it is refused. -/
def listRuns (g : Governor σ) (filter : RunFilter) : Act σ (Option (List WorkflowRun)) := do
  match ← Act.attempt (g.host.collect (.runs filter)) with
  | .ok runs => return some runs
  | .error e =>
    noteRefused filter e
    return none

/-- The open pull requests, or nothing if a page of them is refused. -/
def openPullRequests (g : Governor σ) : Act σ (Option (List PullRequest)) := do
  match ← Act.attempt (g.host.collect .pullRequests) with
  | .ok pulls =>
    Act.info logger "open_pull_requests_fetched" [("count", .int pulls.length)]
    return some pulls
  | .error e =>
    Act.warn logger "pull_requests_fetch_failed" (Act.errorFields e)
    return none

/-! ## Queued duplicates -/

/-- Logs how many runs of a listing are duplicates. -/
def noteDuplicates (filter : RunFilter) (runs : List WorkflowRun) : Act σ Unit :=
  Act.info logger "duplicate_runs_selected"
    [("branch", .maybe filter.branch), ("event_filter", .maybe filter.event),
      ("run_count", .int runs.length), ("duplicate_count", .int (duplicateRuns runs).length)]

/-- Cancels runs in turn. The ledger is given back also when a fault ends the work. -/
def cancelEach (g : Governor σ) : Ledger → List WorkflowRun → Act σ (Ledger × Except Failure Unit)
  | l, [] => return (l, .ok ())
  | l, r :: rs => do
    match ← Act.outcome (g.apply .cancel .duplicateQueued .superseded l r) with
    | .ok l => g.cancelEach l rs
    | .error e => return (l, .error e)

/-- Cancels the duplicates in a listing of runs, and gives the whole listing. -/
def cancelDuplicates (g : Governor σ) (filter : RunFilter) (l : Ledger) :
    Act σ (Ledger × Except Failure (List WorkflowRun)) := do
  match ← Act.outcome (g.listRuns filter) with
  | .error e => return (l, .error e)
  | .ok none => return (l, .ok [])
  | .ok (some runs) =>
    noteDuplicates filter runs
    let (l, ended) ← g.cancelEach l (duplicateRuns runs)
    return (l, ended.map fun _ => runs)

/-- Cancels the queued duplicates of each branch in a worker, one branch after another. Every branch is handled, also
after a fault; the first fault is given back. -/
def cancelInBranches (g : Governor σ) :
    Ledger → List Branch → Act σ (Ledger × Except Failure Unit)
  | l, [] => return (l, .ok ())
  | l, b :: bs => do
    let (l, ended) ← Act.inWorker 0 (g.cancelDuplicates (.queuedOn b) l)
    let (l, later) ← g.cancelInBranches l bs
    match ended with
    | .ok _ => return (l, later)
    | .error e => return (l, .error e)

/-- Cancels queued duplicates in every branch, in a given way, and among pull requests, and gives the queued runs of
pull requests. -/
def cancelQueuedBy (g : Governor σ) (inBranches : Act σ (Ledger × Except Failure Unit)) :
    Act σ (Ledger × List WorkflowRun) := do
  let (l, ended) ← inBranches
  Act.conclude ended
  let (l, runs) ← g.cancelDuplicates .queuedOfPulls l
  let runs ← Act.conclude runs
  return (l, runs)

/-- Cancels queued duplicates in one branch after another and among pull requests. -/
def cancelQueuedDuplicates (g : Governor σ) (branches : List Branch) (l : Ledger) :
    Act σ (Ledger × List WorkflowRun) :=
  g.cancelQueuedBy (g.cancelInBranches l branches)

/-! ## The other policies -/

/-- Clears the runs that belong to no open pull request. -/
def clearOrphans (g : Governor σ) (runs : List WorkflowRun) (pulls : List PullRequest) (l : Ledger) :
    Act σ Ledger :=
  runs.foldlM (fun l r =>
    if pulls.any fun p => p.headRef == r.headBranch then pure l
    else g.cancelThenRemove .orphanedPullRequest .noOpenPullRequest l r) l

/-- Removes a run if it has expired. -/
def purgeRun (g : Governor σ) (now : Stamp) (l : Ledger) (r : WorkflowRun) : Act σ Ledger :=
  match r.expiry g.settings now with
  | .error f => Act.halt f
  | .ok none => pure l
  | .ok (some reason) => g.cancelThenRemove .retention reason l r

/-- Removes the expired runs of one page; a page that is refused is passed over. -/
def purgePage (g : Governor σ) (now : Stamp) (l : Ledger) (page : Int) : Act σ Ledger := do
  match ← Act.attempt (g.host.runsPage page 100) with
  | .error e =>
    Act.warn logger "workflow_runs_page_fetch_failed" (("page", .int page) :: Act.errorFields e)
    return l
  | .ok runs =>
    Act.info logger "retention_page_scanned" [("page", .int page), ("run_count", .int runs.length)]
    runs.foldlM (g.purgeRun now) l

/-- Removes the expired runs of the pages from a given one down to the first. Going backwards, a removal moves no run to
a page that is still to come. -/
def purgeDown (g : Governor σ) (now : Stamp) : Nat → Ledger → Act σ Ledger
  | 0, l => pure l
  | page + 1, l => do
    let l ← g.purgePage now l (page + 1)
    g.purgeDown now page l

/-- Removes the expired runs. -/
def purge (g : Governor σ) (l : Ledger) : Act σ Ledger := do
  let now ← g.clock
  g.purgeDown now g.settings.retentionPageCount.toNat l

/-- Removes the cancelled runs. -/
def sweepCancelled (g : Governor σ) (l : Ledger) : Act σ Ledger := do
  match ← g.listRuns .cancelled with
  | none => return l
  | some runs =>
    Act.info logger "cancelled_runs_found" [("run_count", .int runs.length)]
    runs.foldlM (g.apply .remove .cancelledSweep .cancelled) l

/-- Removes a run of pull requests, unless the first open pull request of its branch is vouched for by a trusted author
or by the label. -/
def pruneRun (g : Governor σ) (pulls : List PullRequest) (l : Ledger) (r : WorkflowRun) :
    Act σ Ledger :=
  match pulls.find? fun p => p.headRef == r.headBranch with
  | none => g.cancelThenRemove .pullRequestPruning .noOpenPullRequest l r
  | some p =>
    if g.settings.isTrusted p.authorLogin || p.hasLabel g.settings.ciLabel then pure l
    else g.cancelThenRemove .pullRequestPruning .untrustedWithoutLabel l r

/-- The number of different head branches of pull requests. -/
def headCount (pulls : List PullRequest) : Nat :=
  (pulls.map PullRequest.headRef).eraseDups.length

def prune (g : Governor σ) (pulls : List PullRequest) (l : Ledger) : Act σ Ledger := do
  match ← g.listRuns .ofPulls with
  | none => return l
  | some runs =>
    Act.info logger "pull_request_runs_found"
      [("run_count", .int runs.length), ("open_pull_request_count", .int (headCount pulls))]
    runs.foldlM (g.pruneRun pulls) l

/-! ## The pass -/

/-- Applies all policies, the first one to the branches in a given way. -/
def runPoliciesBy (g : Governor σ) (inBranches : Act σ (Ledger × Except Failure Unit)) :
    Act σ Ledger := do
  let (l, queued) ← g.cancelQueuedBy inBranches
  let pulls ← g.openPullRequests
  let l ← match pulls with
    | some pulls => g.clearOrphans queued pulls l
    | none => pure l
  let l ← g.purge l
  let l ← g.sweepCancelled l
  match pulls with
  | some pulls => g.prune pulls l
  | none => pure l

/-- Applies all policies, to one branch after another. -/
def runPolicies (g : Governor σ) (branches : List Branch) : Act σ Ledger :=
  g.runPoliciesBy (g.cancelInBranches {} branches)

/-- One pass over the runs of the host, given how the policies are applied. -/
def passOf (g : Governor σ) (branches : List Branch) (policies : Act σ Ledger) : Act σ Report := do
  Act.info logger "governance_pass_started"
    [("branch_count", .int branches.length), ("dry_run", .flag g.rehearsal)]
  let l ← policies
  let report := l.report
  Act.info logger "governance_pass_completed"
    [("dry_run", .flag g.rehearsal),
      ("cancelled", .int (report.count (some .cancel) (some .done))),
      ("removed", .int (report.count (some .remove) (some .done))),
      ("planned", .int (report.count none (some .planned))),
      ("noop", .int (report.count none (some .noop))),
      ("failed", .int (report.count none (some .failed)))]
  return report

/-- One pass over the runs of the host, in which one branch is handled after another. -/
def runPass (g : Governor σ) (branches : List Branch) : Act σ Report :=
  g.passOf branches (g.runPolicies branches)

end Governor

end RunSteward
