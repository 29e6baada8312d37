import RunSteward.Gateway.Reads

/-!
# Writes

The requests that change something, each with the event that tells of it in the log.
-/

namespace RunSteward

namespace Gateway

variable {σ : Type}

/-- Sends a write whose answer is of no interest. -/
def sendOnly (g : Gateway σ) (r : Request) (event : String) (fields : LogFields) :
    Act (Session σ) Unit := do
  let _ ← g.send r event fields

def textObject (members : List (String × String)) : Json :=
  .object (members.map fun m => (m.1, .string m.2))

/-! ## Comments -/

def removeComment (g : Gateway σ) (id : Int) : Act (Session σ) Unit :=
  g.sendOnly { method := .delete, path := g.pathTo ("/issues/comments/" ++ toString id) }
    "github_comment_removed" [("comment_id", .int id)]

def addComment (g : Gateway σ) (pr : PullRequest) (body : String) : Act (Session σ) Unit :=
  g.sendOnly
    { method := .post
      path := g.pathTo ("/issues/" ++ toString pr.number ++ "/comments")
      payload := some (textObject [("body", body)]) }
    "github_comment_posted" [("pr_number", .int pr.number)]

/-! ## Check runs and statuses -/

def createCheckRun (g : Gateway σ) (d : CheckRunDraft) : Act (Session σ) Bool := do
  g.sendOnly
    { method := .post
      path := g.pathTo "/check-runs"
      payload := some (.object [("name", .string d.name), ("head_sha", .string d.headSha),
        ("status", .string d.status), ("conclusion", .string d.conclusion),
        ("output", textObject [("title", d.title), ("summary", d.summary)])]) }
    "github_check_run_created"
    [("name", .text d.name), ("head_sha", .text d.headSha), ("conclusion", .text d.conclusion)]
  return true

/-- The payload of a status; an empty address is left out. -/
def statusPayload (d : StatusDraft) : Json :=
  textObject ([("state", d.state), ("description", d.description), ("context", d.context)]
    ++ (if d.targetUrl.isEmpty then [] else [("target_url", d.targetUrl)]))

def createStatus (g : Gateway σ) (d : StatusDraft) : Act (Session σ) Bool := do
  g.sendOnly
    { method := .post, path := g.pathTo ("/statuses/" ++ d.sha), payload := some (statusPayload d) }
    "github_status_created"
    [("sha", .text d.sha), ("state", .text d.state), ("context", .text d.context)]
  return true

/-! ## Workflow runs -/

/-- The fields that tell of a run. -/
def runFields (r : WorkflowRun) : LogFields :=
  [("run_id", .int r.id), ("head_branch", .text r.headBranch), ("workflow", .text r.name)]

def runPath (g : Gateway σ) (r : WorkflowRun) : String :=
  g.pathTo ("/actions/runs/" ++ toString r.id)

def cancelRun (g : Gateway σ) (r : WorkflowRun) : Act (Session σ) Unit :=
  g.sendOnly { method := .post, path := g.runPath r ++ "/cancel" } "workflow_run_cancelled"
    (runFields r)

def removeRun (g : Gateway σ) (r : WorkflowRun) : Act (Session σ) Unit :=
  g.sendOnly { method := .delete, path := g.runPath r } "workflow_run_removed" (runFields r)

/-! ## Pull requests -/

def pullPath (g : Gateway σ) (number : Int) : String :=
  g.pathTo ("/pulls/" ++ toString number)

/-- Brings the base branch into a pull request, and gives the pull request as it is afterwards. -/
def updateBranch (g : Gateway σ) (pr : PullRequest) : Act (Session σ) PullRequest := do
  g.sendOnly
    { method := .put
      path := g.pullPath pr.number ++ "/update-branch"
      payload := some (textObject [("expected_head_sha", pr.headSha)]) }
    "github_base_merged" [("pr_number", .int pr.number), ("base", .text pr.baseRef)]
  return (← g.pullRequest pr.number).getD pr

/-- Tells whether an answer says that a pull request was merged. -/
def saysMerged (answer : Option Json) : Bool :=
  match answer with
  | some v =>
    match Payload.inner v "merged" with
    | .bool b => b
    | _ => false
  | none => false

/-- Merges a pull request into its base, and tells whether the server says so. -/
def merge (g : Gateway σ) (pr : PullRequest) (d : MergeDraft) : Act (Session σ) Bool := do
  let answer ← g.send
    { method := .put
      path := g.pullPath pr.number ++ "/merge"
      payload := some (textObject [("commit_title", d.commitTitle),
        ("commit_message", d.commitMessage), ("sha", d.expectedHeadSha),
        ("merge_method", d.method)]) }
    "github_pr_merged" [("pr_number", .int pr.number), ("merge_method", .text d.method)]
  return saysMerged answer

def labelsPath (g : Gateway σ) (pr : PullRequest) : String :=
  g.pathTo ("/issues/" ++ toString pr.number ++ "/labels")

def addLabel (g : Gateway σ) (pr : PullRequest) (label : String) : Act (Session σ) Unit :=
  g.sendOnly
    { method := .post
      path := g.labelsPath pr
      payload := some (.object [("labels", .array [.string label])]) }
    "github_label_added" [("pr_number", .int pr.number), ("label", .text label)]

def removeLabel (g : Gateway σ) (pr : PullRequest) (label : String) : Act (Session σ) Unit :=
  g.sendOnly
    { method := .delete, path := g.labelsPath pr ++ "/" ++ Text.percentSegment label }
    "github_label_removed" [("pr_number", .int pr.number), ("label", .text label)]

def close (g : Gateway σ) (number : Int) : Act (Session σ) Unit :=
  g.sendOnly
    { method := .patch, path := g.pullPath number, payload := some (textObject [("state", "closed")]) }
    "github_pr_closed" [("pr_number", .int number)]

/-! ## The gateway as a host -/

/-- The host that is reached through a gateway; the limit says how many pages of a listing are followed. -/
def host (g : Gateway σ) (pageLimit : Nat) : Host (Session σ) where
  page := g.page
  pullRequest := g.pullRequest
  commit := g.commit
  checkRuns := g.checkRuns
  combinedStatus := g.combinedStatus
  runsPage := g.runsPage
  fileText := g.fileText
  removeComment := g.removeComment
  createCheckRun := g.createCheckRun
  createStatus := g.createStatus
  cancelRun := g.cancelRun
  removeRun := g.removeRun
  updateBranch := g.updateBranch
  merge := g.merge
  addLabel := g.addLabel
  removeLabel := g.removeLabel
  addComment := g.addComment
  close := g.close
  pageLimit := pageLimit

end Gateway

end RunSteward
