import RunSteward.Text.Blank
import RunSteward.Text.Case
import RunSteward.Time.Stamp

/-!
# Pull requests

A pull request with what belongs to it: changed files, commits and the comments of its conversation.
-/

namespace RunSteward

structure PullRequest where
  number : Int
  title : String := ""
  body : String := ""
  authorLogin : String := ""
  headRef : String := ""
  headSha : String := ""
  baseRef : String := "master"
  labels : List String := []
  locked : Bool := false
  state : String := "open"
  htmlUrl : String := ""
deriving DecidableEq, Repr

namespace PullRequest

/-- A label as it is compared: without surrounding blanks and in lower case. -/
def labelKey (label : String) : String :=
  Text.lower (Text.trim label)

/-- Tells whether a pull request carries a label, ignoring case and surrounding blanks. -/
def hasLabel (pr : PullRequest) (name : String) : Bool :=
  pr.labels.any fun l => labelKey l == labelKey name

end PullRequest

structure PullRequestFile where
  filename : String
  status : String
  additions : Int := 0
  deletions : Int := 0
deriving DecidableEq, Repr

structure Commit where
  sha : String
  message : String
  authorLogin : String := ""
deriving DecidableEq, Repr

/-- A comment in the conversation of a pull request. -/
structure Comment where
  id : Int
  authorLogin : String
  body : String
  createdAt : Stamp
  updatedAt : Stamp
deriving DecidableEq, Repr

namespace Comment

/-- Tells whether a comment was touched after another one; of two touched at one instant the greater id counts as later. -/
def isLater (a b : Comment) : Bool :=
  b.updatedAt.instant < a.updatedAt.instant
    || (b.updatedAt.instant == a.updatedAt.instant && b.id < a.id)

/-- The comment touched last, and of equals the first one in the list. -/
def latest? : List Comment → Option Comment
  | [] => none
  | c :: cs => some (cs.foldl (fun best d => if d.isLater best then d else best) c)

end Comment

end RunSteward
