import RunSteward.Branches.Classifier
import RunSteward.Host

/-!
# Active branches

The open milestones and the governed branches of a host. A page that is refused ends a listing early; what was fetched
before it counts.
-/

namespace RunSteward

variable {σ : Type}

/-! ## Milestones -/

namespace Milestone

/-- Notes in the log that the title of a milestone is no version. -/
def noteUnreadable (m : Milestone) : Act σ Unit :=
  match m.version with
  | .ok none =>
    Act.info "repowarden.versions" "milestone_title_unparseable"
      [("milestone_number", .int m.number), ("title", .text m.title)]
  | _ => pure ()

/-- Notes every milestone of a list whose title is no version. -/
def noteAllUnreadable (milestones : List Milestone) : Act σ Unit :=
  milestones.forM noteUnreadable

end Milestone

/-- The milestone of the main branch at a version; unreadable titles of open milestones are noted, up to one that ends
the work. -/
def resolveMainline (current : Version) (milestones : List Milestone) : Act σ (Option Milestone) := do
  Milestone.noteAllUnreadable
    ((milestones.filter Milestone.isOpen).takeWhile fun m => (m.version matches .ok _))
  Act.orHalt (milestoneForMainline current milestones)

namespace Host

def branchLogger : String := "repowarden.branches"

def openMilestones (host : Host σ) : Act σ (List Milestone) := do
  let (items, error) ← host.gather .milestones
  let milestones := items.filter Milestone.isOpen
  match error with
  | some e =>
    Act.warn branchLogger "milestones_fetch_failed"
      (("fetched_count", .int milestones.length) :: Act.errorFields e)
  | none => pure ()
  Act.info branchLogger "milestones_fetched" [("count", .int milestones.length)]
  return milestones

/-! ## Branches -/

/-- Tells whether a branch is governed; unreadable titles that are met on the way are noted. -/
def judge (k : Classifier) (milestones : List Milestone) (b : Branch) : Act σ Bool := do
  if k.classify b.name = .milestone then
    Milestone.noteAllUnreadable (milestonesPassed b.name milestones)
  Act.orHalt (k.isGoverned b.name milestones)

/-- The governed branches on a list, judged one after another. -/
def judgeAll (k : Classifier) (milestones : List Milestone) : List Branch → Act σ (List Branch)
  | [] => return []
  | b :: bs => do
    let governed ← judge k milestones b
    let rest ← judgeAll k milestones bs
    return if governed then b :: rest else rest

/-- The governed branches of a host, given the milestones. -/
def activeBranches (host : Host σ) (k : Classifier) (milestones : List Milestone) :
    Act σ (List Branch) := do
  let (branches, error) ← host.gather .branches
  match error with
  | some e =>
    Act.warn branchLogger "branches_fetch_failed"
      (("fetched_count", .int branches.length) :: Act.errorFields e)
  | none => pure ()
  let active ← judgeAll k milestones branches
  Act.info branchLogger "active_branches_resolved"
    [("fetched_count", .int branches.length), ("active_count", .int active.length),
      ("active", .text (",".intercalate (active.map Branch.name)))]
  return active

end Host

end RunSteward
