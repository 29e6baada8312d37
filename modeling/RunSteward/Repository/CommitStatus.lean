import RunSteward.Text.Case

/-!
# Commit statuses and check runs

The verdicts that outside services attach to a commit.
-/

namespace RunSteward

structure CommitStatus where
  context : String
  state : String
  description : String := ""
  targetUrl : String := ""
deriving DecidableEq, Repr

/-- The statuses of a commit with their summary. -/
structure CombinedStatus where
  state : String
  sha : String
  statuses : List CommitStatus
deriving DecidableEq, Repr

namespace CombinedStatus

/-- Tells whether a status of the given context has the given state, which is in lower case; case is ignored in both. -/
def has (c : CombinedStatus) (context state : String) : Bool :=
  c.statuses.any fun s =>
    Text.lower s.context == Text.lower context && Text.lower s.state == state

end CombinedStatus

structure CheckRun where
  id : Int
  name : String
  headSha : String
  status : String
  conclusion : Option String
deriving DecidableEq, Repr

namespace CheckRun

/-- The check run with the greatest id, and of equals the first one. -/
def newest? : List CheckRun → Option CheckRun
  | [] => none
  | r :: rs => some (rs.foldl (fun best d => if best.id < d.id then d else best) r)

end CheckRun

end RunSteward
