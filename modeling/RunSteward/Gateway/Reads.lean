import RunSteward.Gateway.Records
import RunSteward.Gateway.Transfer
import RunSteward.Text.Base64
import RunSteward.Text.Percent

/-!
# Reads

The paths that records are read from. A listing is read page by page; a record that does not exist is absent only where
the caller can go on without it.
-/

namespace RunSteward

/-- The number of records on a page. -/
def perPage : Int := 100

def sizeParameter (size : Int) : String × String :=
  ("per_page", toString size)

def parameter? (name : String) (value : Option String) : List (String × String) :=
  (value.map fun v => (name, v)).toList

def RunFilter.query (f : RunFilter) : String :=
  Text.queryLine (sizeParameter perPage :: (parameter? "branch" f.branch
    ++ parameter? "event" f.event ++ parameter? "status" f.status))

def CheckRunQuery.query (q : CheckRunQuery) : String :=
  Text.queryLine (sizeParameter perPage :: (parameter? "check_name" q.name
    ++ parameter? "status" q.status ++ parameter? "filter" q.filter))

namespace Listing

def plainQuery : String :=
  Text.queryLine [sizeParameter perPage]

def openQuery : String :=
  Text.queryLine [("state", "open"), sizeParameter perPage]

/-- The path of the first page, below the repository. -/
def path : Listing → String
  | .branches => "/branches?" ++ plainQuery
  | .milestones => "/milestones?" ++ openQuery
  | .labels => "/labels?" ++ plainQuery
  | .pullRequests => "/pulls?" ++ openQuery
  | .files n => "/pulls/" ++ toString n ++ "/files?" ++ plainQuery
  | .commits n => "/pulls/" ++ toString n ++ "/commits?" ++ plainQuery
  | .comments n => "/issues/" ++ toString n ++ "/comments?" ++ plainQuery
  | .statuses sha => "/commits/" ++ sha ++ "/statuses?" ++ plainQuery
  | .runs filter => "/actions/runs?" ++ filter.query

def endpoint : Listing → String
  | .branches => "branches"
  | .milestones => "milestones"
  | .labels => "labels"
  | .pullRequests => "pull_requests"
  | .files _ => "pull_request_files"
  | .commits _ => "pull_request_commits"
  | .comments _ => "issue_comments"
  | .statuses _ => "commit_statuses"
  | .runs _ => "workflow_runs"

end Listing

namespace Gateway

variable {σ : Type}

/-! ## Listings -/

/-- One page of a listing: the page at a place, or the first one. -/
def page (g : Gateway σ) (l : Listing) (cursor : Option Cursor) : Act (Session σ) (Page l.Item) := do
  let (payload, next) ← g.getJson (cursor.getD (g.pathTo l.path))
  let items ← Act.orRefuse (l.read payload)
  noteRead l.endpoint [("count", .int items.length), ("has_next", .flag next.isSome)]
  return ⟨items, next⟩

def runsPage (g : Gateway σ) (page size : Int) : Act (Session σ) (List WorkflowRun) := do
  if page < 1 then Act.halt .pageNumber
  let query := Text.queryLine [sizeParameter size, ("page", toString page)]
  let (payload, _) ← g.getJson (g.pathTo ("/actions/runs?" ++ query))
  let runs ← Act.orRefuse (WorkflowRun.readList payload)
  noteRead "workflow_runs_page" [("page", .int page), ("count", .int runs.length)]
  return runs

/-! ## Single records -/

def getObject (g : Gateway σ) (what suffix : String) : Act (Session σ) Members := do
  let (payload, _) ← g.getJson (g.pathTo suffix)
  Act.orRefuse (Payload.object what .ok payload)

def pullRequest (g : Gateway σ) (number : Int) : Act (Session σ) (Option PullRequest) := do
  let note (found : Bool) : Act (Session σ) Unit :=
    noteRead "pull_request" [("pr_number", .int number), ("found", .flag found)]
  match ← Act.attempt (g.getJson (g.pathTo ("/pulls/" ++ toString number))) with
  | .error e =>
    if e.kind = .notFound then
      note false
      return none
    else Act.refuse e
  | .ok (payload, _) =>
    let pr ← Act.orRefuse (Payload.object "pull request" PullRequest.read payload)
    note true
    return some pr

/-- The commit that a branch, a tag or a hash names. -/
def commit (g : Gateway σ) (ref : String) : Act (Session σ) Commit := do
  let members ← g.getObject "commit" ("/commits/" ++ Text.percentSegment ref)
  noteRead "commit" [("ref", .text ref)]
  Act.orRefuse (Commit.read members)

def checkRuns (g : Gateway σ) (q : CheckRunQuery) : Act (Session σ) (List CheckRun) := do
  let members ← g.getObject "check runs" ("/commits/" ++ q.sha ++ "/check-runs?" ++ q.query)
  let runs ← Act.orRefuse
    (Payload.list "check runs" CheckRun.read (Json.get members "check_runs"))
  noteRead "check_runs" [("sha", .text q.sha), ("count", .int runs.length)]
  return runs

def combinedStatus (g : Gateway σ) (sha : String) : Act (Session σ) CombinedStatus := do
  let members ← g.getObject "combined status" ("/commits/" ++ sha ++ "/status")
  let statuses ← Act.orRefuse
    (Payload.list "statuses" CommitStatus.read (Json.get members "statuses"))
  noteRead "combined_status" [("sha", .text sha), ("count", .int statuses.length)]
  return ⟨Payload.text (Json.get members "state"), Payload.textOr sha (Json.get members "sha"),
    statuses⟩

/-! ## File contents -/

def isAscii (s : String) : Bool :=
  s.toList.all fun c => c.toNat < 0x80

/-- The text of a file from its encoded content. -/
def decodeContent (path content : String) : Except Failure String :=
  if isAscii content then
    match (Text.Base64.decode content).bind fun bytes => String.fromUTF8? ⟨bytes.toArray⟩ with
    | some text => .ok text
    | none => .error (.host ⟨.transient, "Undecodable content for " ++ path⟩)
  else .error (.fault .contentNotAscii)

/-- A path without the slashes at its start. -/
def relativePath (path : String) : String :=
  String.ofList (path.toList.dropWhile (· = '/'))

/-- The text of a file as a branch, a tag or a commit has it. -/
def fileText (g : Gateway σ) (path ref : String) : Act (Session σ) String := do
  let members ← g.getObject "contents"
    ("/contents/" ++ Text.percentPath (relativePath path) ++ "?" ++ Text.queryLine [("ref", ref)])
  let encoding := Payload.text (Json.get members "encoding")
  if encoding ≠ "base64" then
    Act.refuse ⟨.general,
      "Unsupported content encoding for " ++ path ++ ": " ++ Text.quoted encoding⟩
  let text ← Act.conclude
    (decodeContent path (Payload.text (Json.get members "content")))
  noteRead "contents" [("path", .text path), ("ref", .text ref)]
  return text

end Gateway

end RunSteward
