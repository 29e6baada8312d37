import RunSteward.Governance.Pass

/-!
# The pool of workers

The queued duplicates of the branches are cancelled by the workers of a pool, several branches at a time. A worker takes
the first branch that nobody has taken, and goes on with it step by step: it fetches a page of the listing, acts on a
run with nobody else acting on it meanwhile, or logs something. Which worker takes a step next is not determined. A pass
is therefore given the turns that the workers take (`Governor.runPassBy`); what is left after these turns is done one
branch after another, so that every list of turns makes a pass.
-/

namespace RunSteward

variable {σ : Type}

/-- How far the work on a branch has come: its queued runs are being listed, with the pages that may still be fetched;
the listing is complete or was refused; some runs are to be cancelled; an action is to be logged before that; or the
work has ended. -/
inductive Stage where
  | listing (found : List WorkflowRun) (cursor : Option Cursor) (pages : Nat)
  | listed (answer : Except HostError (List WorkflowRun))
  | cancelling (runs : List WorkflowRun)
  | telling (action : Option Action) (runs : List WorkflowRun)
  | ended (how : Except Failure Unit)

/-- The work on a branch, with the worker that has taken it. -/
structure Task where
  branch : Branch
  worker : Option Nat
  stage : Stage

namespace Task

/-- Tells whether a worker has taken a task and not ended it. -/
def isHeldBy (w : Nat) (t : Task) : Bool :=
  t.worker == some w && !(t.stage matches .ended _)

/-- Tells whether nobody has taken a task. -/
def isWaiting (t : Task) : Bool :=
  t.worker.isNone

/-- The place of the task that a worker goes on with: the one that it holds, or else the first that waits. -/
def place? (tasks : List Task) (w : Nat) : Option Nat :=
  (tasks.findIdx? (isHeldBy w)).or (tasks.findIdx? isWaiting)

end Task

namespace Governor

/-- The work on a branch before it begins. -/
def taskOf (g : Governor σ) (b : Branch) : Task :=
  ⟨b, none, .listing [] none g.host.pageLimit⟩

/-! ## Steps -/

/-- One step of the work on a listing of runs. -/
def advance (g : Governor σ) (filter : RunFilter) (l : Ledger) : Stage → Act σ (Ledger × Stage)
  | .listing _ _ 0 => return (l, .ended (.error (.fault .endlessListing)))
  | .listing found cursor (pages + 1) => do
    match ← Act.outcome (Act.attempt (g.host.page (.runs filter) cursor)) with
    | .error e => return (l, .ended (.error e))
    | .ok (.error e) => return (l, .listed (.error e))
    | .ok (.ok page) =>
      match page.next with
      | none => return (l, .listed (.ok (found ++ page.items)))
      | some next => return (l, .listing (found ++ page.items) (some next) pages)
  | .listed (.error e) => do
    noteRefused filter e
    return (l, .ended (.ok ()))
  | .listed (.ok runs) => do
    noteDuplicates filter runs
    return (l, .cancelling (duplicateRuns runs))
  | .cancelling [] => return (l, .ended (.ok ()))
  | .cancelling (r :: rs) => do
    match ← Act.outcome (g.enact .cancel .duplicateQueued .superseded l r) with
    | .error e => return (l, .ended (.error e))
    | .ok (l, action) => return (l, .telling action rs)
  | .telling action rs => do
    tell action
    return (l, .cancelling rs)
  | .ended how => return (l, .ended how)

/-- The turn of a worker: it takes one step of its task, if it has one or can take one. -/
def turn (g : Governor σ) (l : Ledger) (tasks : List Task) (w : Nat) : Act σ (Ledger × List Task) :=
  if g.workers ≤ w then return (l, tasks)
  else
    match (Task.place? tasks w).bind fun i => tasks[i]?.map (i, ·) with
    | none => return (l, tasks)
    | some (i, t) => do
      let (l, stage) ← Act.inWorker w (g.advance (.queuedOn t.branch) l t.stage)
      return (l, tasks.set i ⟨t.branch, some w, stage⟩)

/-- The turns of the workers, one after another. -/
def takeTurns (g : Governor σ) : Ledger → List Task → List Nat → Act σ (Ledger × List Task)
  | l, tasks, [] => return (l, tasks)
  | l, tasks, w :: turns => do
    let (l, tasks) ← g.turn l tasks w
    g.takeTurns l tasks turns

/-! ## The rest of the work -/

/-- The work on a listing that is complete or was refused. -/
def finishListed (g : Governor σ) (filter : RunFilter) (l : Ledger) :
    Except HostError (List WorkflowRun) → Act σ (Ledger × Except Failure Unit)
  | .error e => do
    noteRefused filter e
    return (l, .ok ())
  | .ok runs => do
    noteDuplicates filter runs
    g.cancelEach l (duplicateRuns runs)

/-- All that is left of the work on a listing of runs. -/
def finish (g : Governor σ) (filter : RunFilter) (l : Ledger) :
    Stage → Act σ (Ledger × Except Failure Unit)
  | .listing found cursor pages => do
    match ← Act.outcome (g.host.gatherFrom (.runs filter) pages cursor) with
    | .error e => return (l, .error e)
    | .ok (_, some e) => g.finishListed filter l (.error e)
    | .ok (runs, none) => g.finishListed filter l (.ok (found ++ runs))
  | .listed answer => g.finishListed filter l answer
  | .cancelling runs => g.cancelEach l runs
  | .telling action runs => do
    tell action
    g.cancelEach l runs
  | .ended how => return (l, how)

/-- All that is left of some tasks, one after another. The first fault is given back; a task that waits is done by the
first worker. -/
def finishAll (g : Governor σ) : Ledger → List Task → Act σ (Ledger × Except Failure Unit)
  | l, [] => return (l, .ok ())
  | l, t :: ts => do
    let (l, ended) ← Act.inWorker (t.worker.getD 0) (g.finish (.queuedOn t.branch) l t.stage)
    let (l, later) ← g.finishAll l ts
    match ended with
    | .ok _ => return (l, later)
    | .error e => return (l, .error e)

/-! ## Passes -/

/-- Cancels the queued duplicates of each branch in the pool, with the workers taking some turns. -/
def cancelInPool (g : Governor σ) (turns : List Nat) (l : Ledger) (branches : List Branch) :
    Act σ (Ledger × Except Failure Unit) := do
  let (l, tasks) ← g.takeTurns l (branches.map g.taskOf) turns
  g.finishAll l tasks

/-- One pass over the runs of the host, in which the workers of the pool take some turns. -/
def runPassBy (g : Governor σ) (turns : List Nat) (branches : List Branch) : Act σ Report :=
  g.passOf branches (g.runPoliciesBy (g.cancelInPool turns {} branches))

end Governor

end RunSteward
