/-!
# Branches and milestones

The branches of a repository, the milestones that its maintainers plan releases with, and the labels they sort pull
requests by.
-/

namespace RunSteward

/-- A branch and the commit it points to. -/
structure Branch where
  name : String
  commitSha : String := ""
deriving DecidableEq, Repr

/-- A milestone. Its title is free text. -/
structure Milestone where
  number : Int
  title : String
  state : String := "open"
  dueOn : Option String := none
deriving DecidableEq, Repr

/-- Tells whether a milestone is still worked on. -/
def Milestone.isOpen (m : Milestone) : Bool :=
  m.state == "open"

structure Label where
  name : String
deriving DecidableEq, Repr

end RunSteward
