import RunSteward.Gateway.Payload
import RunSteward.Host

/-!
# Records in payloads

The records of a repository as the server writes them. Of the members of an object the first one that is wrong decides
the error.
-/

namespace RunSteward

open Json (get)

abbrev Members := List (String × Json)

def Branch.read (m : Members) : Reading Branch :=
  .ok ⟨Payload.text (get m "name"), Payload.text (Payload.inner (get m "commit") "sha")⟩

def Milestone.read (m : Members) : Reading Milestone := do
  let number ← Payload.int "number" (get m "number")
  return ⟨number, Payload.text (get m "title"), Payload.textOr "open" (get m "state"),
    Payload.text? (get m "due_on")⟩

def Label.read (m : Members) : Reading Label :=
  .ok ⟨Payload.text (get m "name")⟩

namespace PullRequest

def labelName? (v : Json) : Option String :=
  match Payload.inner v "name" with
  | .string s => some s
  | _ => none

def labelNames : Json → List String
  | .array items => items.filterMap labelName?
  | _ => []

def read (m : Members) : Reading PullRequest := do
  match get m "head", get m "base" with
  | .object head, .object base =>
    let number ← Payload.int "number" (get m "number")
    return {
      number
      title := Payload.text (get m "title")
      body := Payload.text (get m "body")
      authorLogin := Payload.login (Payload.inner (get m "user") "login")
      headRef := Payload.text (get head "ref")
      headSha := Payload.text (get head "sha")
      baseRef := Payload.text (get base "ref")
      labels := labelNames (get m "labels")
      locked := match get m "locked" with | .bool b => b | _ => false
      state := Payload.textOr "open" (get m "state")
      htmlUrl := Payload.text (get m "html_url") }
  | _, _ => Payload.unexpected "response: missing pull request head/base"

end PullRequest

def PullRequestFile.read (m : Members) : Reading PullRequestFile := do
  let additions ← Payload.count (get m "additions")
  let deletions ← Payload.count (get m "deletions")
  return ⟨Payload.text (get m "filename"), Payload.text (get m "status"), additions, deletions⟩

def Commit.read (m : Members) : Reading Commit :=
  .ok ⟨Payload.text (get m "sha"), Payload.text (Payload.inner (get m "commit") "message"),
    Payload.login (Payload.inner (get m "author") "login")⟩

/-- Reads a comment; one that was never touched again was touched when it was made. -/
def Comment.read (m : Members) : Reading Comment := do
  let createdAt ← Payload.time "created_at" (get m "created_at")
  let id ← Payload.int "id" (get m "id")
  let updatedAt ← Payload.time? "updated_at" (get m "updated_at")
  return ⟨id, Payload.login (Payload.inner (get m "user") "login"), Payload.text (get m "body"),
    createdAt, updatedAt.getD createdAt⟩

def CheckRun.read (m : Members) : Reading CheckRun := do
  let id ← Payload.int "id" (get m "id")
  return ⟨id, Payload.text (get m "name"), Payload.text (get m "head_sha"),
    Payload.lowered (get m "status"), Payload.lowered? (get m "conclusion")⟩

def CommitStatus.read (m : Members) : Reading CommitStatus :=
  .ok ⟨Payload.text (get m "context"), Payload.lowered (get m "state"),
    Payload.text (get m "description"), Payload.text (get m "target_url")⟩

namespace WorkflowRun

def read (m : Members) : Reading WorkflowRun := do
  let id ← Payload.int "id" (get m "id")
  let runNumber ← Payload.int "run_number" (get m "run_number")
  let updatedAt ← Payload.time "updated_at" (get m "updated_at")
  let createdAt ← Payload.time? "created_at" (get m "created_at")
  return {
    id, runNumber, updatedAt, createdAt
    name := Payload.text (get m "name")
    headBranch := Payload.text (get m "head_branch")
    event := Payload.lowered (get m "event")
    status := Payload.lowered (get m "status")
    conclusion := Payload.lowered? (get m "conclusion")
    headSha := Payload.text (get m "head_sha")
    htmlUrl := Payload.text (get m "html_url") }

/-- Reads the runs in an object that holds a list of them. -/
def readList : Json → Reading (List WorkflowRun) :=
  Payload.object "workflow runs" fun m => Payload.list "workflow runs" read (get m "workflow_runs")

end WorkflowRun

def Listing.read : (l : Listing) → Json → Reading (List l.Item)
  | .branches => Payload.list "branches" Branch.read
  | .milestones => Payload.list "milestones" Milestone.read
  | .labels => Payload.list "labels" Label.read
  | .pullRequests => Payload.list "pull requests" PullRequest.read
  | .files _ => Payload.list "files" PullRequestFile.read
  | .commits _ => Payload.list "commits" Commit.read
  | .comments _ => Payload.list "comments" Comment.read
  | .statuses _ => Payload.list "statuses" CommitStatus.read
  | .runs _ => WorkflowRun.readList

end RunSteward
