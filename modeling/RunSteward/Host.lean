import RunSteward.Act
import RunSteward.Repository.CommitStatus
import RunSteward.Repository.Planning
import RunSteward.Repository.PullRequest
import RunSteward.Repository.WorkflowRun

/-!
# Hosts

A host keeps a repository and answers requests about it. Its listings come in pages, and each page tells where the next
one is found, so that nobody has to fetch more pages than are wanted.
-/

namespace RunSteward

inductive Listing where
  | branches
  | milestones
  | labels
  | pullRequests
  | files (number : Int)
  | commits (number : Int)
  | comments (number : Int)
  | statuses (sha : String)
  | runs (filter : RunFilter)
deriving DecidableEq, Repr

abbrev Listing.Item : Listing → Type
  | .branches => Branch
  | .milestones => Milestone
  | .labels => Label
  | .pullRequests => PullRequest
  | .files _ => PullRequestFile
  | .commits _ => Commit
  | .comments _ => Comment
  | .statuses _ => CommitStatus
  | .runs _ => WorkflowRun

/-- The place of a page. -/
abbrev Cursor := String

/-- One page of a listing, with the place of the next one. -/
structure Page (α : Type) where
  items : List α
  next : Option Cursor

/-- Which check runs of a commit are wanted. -/
structure CheckRunQuery where
  sha : String
  name : Option String := none
  status : Option String := none
  filter : Option String := none
deriving DecidableEq, Repr

structure CheckRunDraft where
  name : String
  headSha : String
  status : String
  conclusion : String
  title : String
  summary : String
deriving DecidableEq, Repr

structure StatusDraft where
  sha : String
  state : String
  targetUrl : String
  description : String
  context : String
deriving DecidableEq, Repr

/-- How a pull request shall be merged. -/
structure MergeDraft where
  commitTitle : String
  commitMessage : String
  expectedHeadSha : String
  method : String
deriving DecidableEq, Repr

/-- A host on a world of type `σ`. No listing has more pages than its page limit. -/
structure Host (σ : Type) where
  page : (l : Listing) → Option Cursor → Act σ (Page l.Item)
  pullRequest : Int → Act σ (Option PullRequest)
  commit : String → Act σ Commit
  checkRuns : CheckRunQuery → Act σ (List CheckRun)
  combinedStatus : String → Act σ CombinedStatus
  runsPage : Int → Int → Act σ (List WorkflowRun)
  fileText : String → String → Act σ String
  removeComment : Int → Act σ Unit
  createCheckRun : CheckRunDraft → Act σ Bool
  createStatus : StatusDraft → Act σ Bool
  cancelRun : WorkflowRun → Act σ Unit
  removeRun : WorkflowRun → Act σ Unit
  updateBranch : PullRequest → Act σ PullRequest
  merge : PullRequest → MergeDraft → Act σ Bool
  addLabel : PullRequest → String → Act σ Unit
  removeLabel : PullRequest → String → Act σ Unit
  addComment : PullRequest → String → Act σ Unit
  close : Int → Act σ Unit
  pageLimit : Nat

namespace Host

variable {σ : Type}

/-! ## Walking through pages -/

/-- The items from a page on, up to the end or to the first page that is refused, with the error of that page. -/
def gatherFrom (host : Host σ) (l : Listing) :
    Nat → Option Cursor → Act σ (List l.Item × Option HostError)
  | 0, _ => Act.halt .endlessListing
  | limit + 1, cursor => do
    match ← Act.attempt (host.page l cursor) with
    | .error e => return ([], some e)
    | .ok page =>
      match page.next with
      | none => return (page.items, none)
      | some next =>
        let (items, error) ← gatherFrom host l limit (some next)
        return (page.items ++ items, error)

/-- The items of a listing up to the first page that is refused, with the error of that page. -/
def gather (host : Host σ) (l : Listing) : Act σ (List l.Item × Option HostError) :=
  host.gatherFrom l host.pageLimit none

def collect (host : Host σ) (l : Listing) : Act σ (List l.Item) := do
  let (items, error) ← host.gather l
  match error with
  | none => return items
  | some e => Act.refuse e

/-- The first items from a given page on, up to the first page that is refused, with the error of that page; a further
page is fetched only when more items are wanted. -/
def takeFrom (host : Host σ) (l : Listing) :
    Nat → Nat → Page l.Item → Act σ (List l.Item × Option HostError)
  | 0, _, _ => Act.halt .endlessListing
  | limit + 1, count, page =>
    if count ≤ page.items.length then return (page.items.take count, none)
    else
      match page.next with
      | none => return (page.items, none)
      | some next => do
        match ← Act.attempt (host.page l (some next)) with
        | .error e => return (page.items, some e)
        | .ok following =>
          let (items, error) ← takeFrom host l limit (count - page.items.length) following
          return (page.items ++ items, error)

/-- The first items of a listing. -/
def take (host : Host σ) (l : Listing) (count : Nat) : Act σ (List l.Item) := do
  let first ← host.page l none
  let (items, error) ← host.takeFrom l host.pageLimit count first
  match error with
  | none => return items
  | some e => Act.refuse e

end Host

end RunSteward
