import RunSteward.Config.Settings
import RunSteward.Host

/-!
# Work on pull requests

Merging, labelling, commenting and closing, and reporting statuses. A refusal of the host is noted in the log and
answered by `false`; reads let the refusal through.
-/

namespace RunSteward

variable {σ : Type}

/-- What works on the pull requests of a repository. -/
structure Coordinator (σ : Type) where
  host : Host σ
  repo : RepoSettings

/-- How bringing the base branch into a pull request ended. -/
inductive BaseMergeOutcome where
  | merged
  | notFound
  | locked
  | failed
deriving DecidableEq, Repr

def BaseMergeOutcome.name : BaseMergeOutcome → String
  | .merged => "merged"
  | .notFound => "not_found"
  | .locked => "locked"
  | .failed => "failed"

/-- The outcome of bringing the base branch in, with the pull request as far as it is known. -/
structure BaseMerge where
  outcome : BaseMergeOutcome
  pullRequest : Option PullRequest := none
deriving DecidableEq, Repr

namespace Coordinator

def logger : String := "repowarden.merge"

/-- Notes in the log that the host refused an operation. -/
def noteFailure (operation : String) (number : Int) (e : HostError) : Act σ Unit :=
  Act.warn logger "pull_request_operation_failed"
    ([("operation", .text operation), ("pr_number", .int number)] ++ Act.errorFields e)

/-! ## Merging -/

/-- Notes in the log why the base branch is not brought in. -/
def skipBaseMerge (number : Int) (reason : String) : Act σ Unit :=
  Act.info logger "merge_with_base_skipped" [("pr_number", .int number), ("reason", .text reason)]

/-- Brings the base branch into a pull request, unless the pull request is locked. -/
def mergeWithBase (c : Coordinator σ) (number : Int) : Act σ BaseMerge := do
  match ← Act.attempt (c.host.pullRequest number) with
  | .error e =>
    noteFailure "merge_with_base" number e
    return ⟨.failed, none⟩
  | .ok none =>
    skipBaseMerge number "not_found"
    return ⟨.notFound, none⟩
  | .ok (some pr) =>
    if pr.locked then
      skipBaseMerge number "locked"
      return ⟨.locked, some pr⟩
    else
      match ← Act.attempt (c.host.updateBranch pr) with
      | .error e =>
        noteFailure "merge_with_base" number e
        return ⟨.failed, some pr⟩
      | .ok updated => return ⟨.merged, some updated⟩

def mergeMethod : String := "squash"

/-- Merges a pull request into its base, provided that its head has not moved. -/
def mergeIntoBase (c : Coordinator σ) (pr : PullRequest) : Act σ Bool := do
  match ← Act.attempt (c.host.merge pr ⟨pr.title, pr.body, pr.headSha, mergeMethod⟩) with
  | .ok merged => return merged
  | .error e =>
    if e.kind = .conflict then
      Act.warn logger "github_pr_merge_failed"
        [("pr_number", .int pr.number), ("reason", .text "stale_head"), ("error", .text e.message)]
    else noteFailure "merge_into_base" pr.number e
    return false

/-! ## Simple operations -/

/-- Does an operation and tells whether the host accepted it; where said, something that is missing already is as good. -/
def tryTo (operation : String) (number : Int) (missingIsFine : Bool) (x : Act σ Unit) : Act σ Bool := do
  match ← Act.attempt x with
  | .ok () => return true
  | .error e =>
    if missingIsFine ∧ e.kind = .notFound then return true
    else
      noteFailure operation number e
      return false

/-- Makes sure that a pull request carries a label. -/
def labelAs (c : Coordinator σ) (pr : PullRequest) (label : String) : Act σ Bool :=
  if pr.hasLabel label then pure true
  else tryTo "add_label" pr.number false (c.host.addLabel pr label)

/-- Makes sure that a pull request does not carry a label. -/
def removeLabelFrom (c : Coordinator σ) (pr : PullRequest) (label : String) : Act σ Bool :=
  tryTo "remove_label" pr.number true (c.host.removeLabel pr label)

def addComment (c : Coordinator σ) (pr : PullRequest) (body : String) : Act σ Bool :=
  tryTo "add_comment" pr.number false (c.host.addComment pr body)

def close (c : Coordinator σ) (pr : PullRequest) : Act σ Bool :=
  if pr.state == "closed" then pure true
  else tryTo "close" pr.number false (c.host.close pr.number)

/-- Does an operation that tells itself whether it worked; a refusal is noted and means no. -/
def tryCreate (operation : String) (number : Int) (x : Act σ Bool) : Act σ Bool := do
  match ← Act.attempt x with
  | .ok worked => return worked
  | .error e =>
    noteFailure operation number e
    return false

/-- Reports a status of the given state on the head of a pull request. -/
def createStatus (c : Coordinator σ) (pr : PullRequest) (state context description : String) :
    Act σ Bool :=
  tryCreate "create_status" pr.number
    (c.host.createStatus ⟨pr.headSha, state, c.repo.statusTargetUrl, description, context⟩)

def createStatusForSuccess (c : Coordinator σ) (pr : PullRequest) (context description : String) :
    Act σ Bool :=
  c.createStatus pr "success" context description

def createStatusForFailure (c : Coordinator σ) (pr : PullRequest) (context description : String) :
    Act σ Bool :=
  c.createStatus pr "failure" context description

/-- Creates a finished check run that asks somebody to act. -/
def createActionRequired (c : Coordinator σ) (pr : PullRequest) (name title summary : String) :
    Act σ Bool :=
  tryCreate "create_check_run" pr.number
    (c.host.createCheckRun ⟨name, pr.headSha, "completed", "action_required", title, summary⟩)

/-! ## Reads -/

def files (c : Coordinator σ) (pr : PullRequest) : Act σ (List PullRequestFile) :=
  c.host.collect (.files pr.number)

def commits (c : Coordinator σ) (pr : PullRequest) : Act σ (List Commit) :=
  c.host.collect (.commits pr.number)

def statuses (c : Coordinator σ) (pr : PullRequest) : Act σ (List CommitStatus) :=
  c.host.collect (.statuses pr.headSha)

def combinedStatus (c : Coordinator σ) (pr : PullRequest) : Act σ CombinedStatus :=
  c.host.combinedStatus pr.headSha

/-- The newest finished check run of the head of a pull request. -/
def latestCheckRun (c : Coordinator σ) (pr : PullRequest) (name : Option String) :
    Act σ (Option CheckRun) := do
  let runs ← c.host.checkRuns
    { sha := pr.headSha, name := name, status := some "completed", filter := some "latest" }
  return CheckRun.newest? runs

def headCommit (c : Coordinator σ) (b : Branch) : Act σ Commit :=
  c.host.commit b.name

end Coordinator

end RunSteward
