import RunSteward.Time.Stamp

/-!
# Workflow runs

A run of a workflow, and the filter that a listing of runs is asked for with.
-/

namespace RunSteward

structure WorkflowRun where
  id : Int
  name : String
  headBranch : String
  runNumber : Int
  event : String
  status : String
  conclusion : Option String
  updatedAt : Stamp
  headSha : String := ""
  createdAt : Option Stamp := none
  htmlUrl : String := ""
deriving DecidableEq, Repr

namespace WorkflowRun

/-- Tells whether a run is not finished yet. -/
def isActive (r : WorkflowRun) : Bool :=
  r.status ∈ ["queued", "in_progress", "waiting", "requested", "pending"]

/-- Tells whether a run is finished and was a success. -/
def concludedSuccessfully (r : WorkflowRun) : Bool :=
  r.status == "completed" && r.conclusion == some "success"

end WorkflowRun

/-- Which runs a listing shall hold; an absent part does not restrict it. -/
structure RunFilter where
  branch : Option String := none
  event : Option String := none
  status : Option String := none
deriving DecidableEq, Repr

end RunSteward
