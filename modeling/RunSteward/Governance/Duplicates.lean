import RunSteward.Repository.WorkflowRun

/-!
# Duplicate runs

Of the runs of one workflow on one branch the newest is enough. The others are duplicates: every run whose number is not
above those of the runs of its group listed before it, and every run that a later one surpasses.
-/

namespace RunSteward

namespace WorkflowRun

/-- Tells whether two runs are of one workflow on one branch. -/
def sameGroup (a b : WorkflowRun) : Bool :=
  a.headBranch == b.headBranch && a.name == b.name

/-- The order in which duplicates are handled: by branch, then by workflow, newer runs first. -/
def handledBefore (a b : WorkflowRun) : Bool :=
  if a.headBranch ≠ b.headBranch then a.headBranch < b.headBranch
  else if a.name ≠ b.name then a.name < b.name
  else b.runNumber ≤ a.runNumber

end WorkflowRun

/-- The newest run of each group so far, and the runs that lost against one of these. -/
structure Contest where
  best : List WorkflowRun := []
  losers : List WorkflowRun := []

namespace Contest

/-- A contest with one more run. -/
def enter (c : Contest) (r : WorkflowRun) : Contest :=
  match c.best.find? (r.sameGroup ·) with
  | none => { c with best := c.best ++ [r] }
  | some held =>
    if held.runNumber < r.runNumber then
      { best := c.best.map fun b => if r.sameGroup b then r else b
        losers := c.losers ++ [held] }
    else { c with losers := c.losers ++ [r] }

end Contest

/-- The duplicates among runs, in the order in which they are handled. -/
def duplicateRuns (runs : List WorkflowRun) : List WorkflowRun :=
  (runs.foldl Contest.enter {}).losers.mergeSort WorkflowRun.handledBefore

end RunSteward
