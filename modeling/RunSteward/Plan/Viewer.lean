import RunSteward.Act
import RunSteward.Plan.Table

/-!
# The plan viewer

The viewer shows a report and obeys two keys: one loads the report anew, the other ends the viewer. All other keys leave
everything as it is.
-/

namespace RunSteward

/-- What the viewer shows: a report for a repository, and how many reports were loaded so far. -/
structure Frame where
  repo : String
  report : Report
  loads : Nat
deriving DecidableEq, Repr

namespace Frame

def heading (f : Frame) : String :=
  f.report.heading f.repo

def rows (f : Frame) : List (List String) :=
  f.report.rows

end Frame

/-- A key that the viewer obeys. -/
inductive ViewerKey where
  | refresh
  | quit
  | other
deriving DecidableEq, Repr

def ViewerKey.ofName (name : String) : ViewerKey :=
  if name = "r" then .refresh else if name = "q" then .quit else .other

namespace Viewer

variable {σ : Type}

/-- The frames that keys lead to, from a given frame on. -/
def press (load : Act σ Report) : Frame → List ViewerKey → Act σ (List Frame)
  | _, [] => return []
  | _, .quit :: _ => return []
  | f, .other :: keys => do
    let later ← press load f keys
    return f :: later
  | f, .refresh :: keys => do
    let next : Frame := { f with report := ← load, loads := f.loads + 1 }
    let later ← press load next keys
    return next :: later

/-- The frames of a viewer: one when it opens, and one after each key up to the end. -/
def frames (repo : String) (load : Act σ Report) (keys : List ViewerKey) : Act σ (List Frame) := do
  let first : Frame := ⟨repo, ← load, 1⟩
  let later ← press load first keys
  return first :: later

end Viewer

end RunSteward
