import RunSteward.Repository.Planning
import RunSteward.Version.Grammar

/-!
# Release lines

A maintenance branch `6.5.x` carries the line of all versions that begin with 6.5. A branch is tied to the open
milestones whose titles are versions of its line; the milestone of the main branch is the first of them in the order of
versions.
-/

namespace RunSteward

/-- The patch number that stands for the open end of a line. -/
def unboundedPatch : Nat := 2147483647

/-- Tells whether a name is that of a maintenance branch: two numerals and the letter x with points between them. One
line feed at the end is passed over. -/
def isLineBranch (name : String) : Bool :=
  match Version.takeNumeral? name.toList with
  | some (_, rest) =>
    match Version.takePointed? rest with
    | some (_, rest) => rest == ['.', 'x'] || rest == ['.', 'x', '\n']
    | none => false
  | none => false

/-- The version that a branch name stands for; the end `.x` stands for the open end of the line. -/
def branchWindow (name : String) : Except Fault (Option Version) :=
  let s := Text.trimChars name.toList
  match s.reverse with
  | 'x' :: '.' :: line =>
    Version.read (String.ofList (line.reverse ++ '.' :: (toString unboundedPatch).toList))
  | _ => Version.read (String.ofList s)

/-! ## Milestones of a line -/

/-- The version that the title of a milestone is. -/
def Milestone.version (m : Milestone) : Except Fault (Option Version) :=
  Version.read m.title

/-- Tells whether a milestone is open and its title is a version on the line of the given one. The title of a closed one
is not looked at. -/
def Milestone.isOnLine (v : Version) (m : Milestone) : Except Fault Bool :=
  if m.isOpen then m.version.map fun w => w.any (·.sameLine v) else .ok false

/-- The first open milestone on the line of a version. -/
def firstOnLine (v : Version) : List Milestone → Except Fault (Option Milestone)
  | [] => .ok none
  | m :: ms => do
    if ← m.isOnLine v then return some m
    firstOnLine v ms

/-- The first open milestone on the line of a branch. -/
def milestoneForBranch (branch : String) (milestones : List Milestone) :
    Except Fault (Option Milestone) := do
  match ← branchWindow branch with
  | none => return none
  | some window => firstOnLine window milestones

/-- The open milestones that are passed, in order, on the way to the one of a branch. -/
def milestonesPassed (branch : String) (milestones : List Milestone) : List Milestone :=
  match branchWindow branch with
  | .ok (some window) =>
    milestones.filter Milestone.isOpen |>.takeWhile fun m =>
      (m.isOnLine window matches .ok false)
  | _ => []

/-- Tells whether a milestone comes first: by version, and then by number. -/
def comesFirst (a b : Version × Milestone) : Bool :=
  a.1.lt b.1 || (!b.1.lt a.1 && a.2.number ≤ b.2.number)

/-- A milestone with the version that its title is. -/
def Milestone.titled (m : Milestone) : Except Fault (Option (Version × Milestone)) :=
  m.version.map fun v => v.map (·, m)

/-- The first milestone, by version and number, on the line of the version that the main branch is at. -/
def milestoneForMainline (current : Version) (milestones : List Milestone) :
    Except Fault (Option Milestone) := do
  let titled ← (milestones.filter Milestone.isOpen).mapM Milestone.titled
  let sorted := (titled.filterMap id).mergeSort comesFirst
  return (sorted.find? fun p => p.1.sameLine current).map (·.2)

/-- The branch on which the work for a milestone happens. -/
def branchForMilestone (m : Milestone) (mainline : Option Milestone) (mainlineBranch : String) :
    Except Fault (Option String) :=
  if mainline.any fun k => k.number == m.number then .ok (some mainlineBranch)
  else m.version.map fun v => v.map fun v => toString v.major ++ "." ++ toString v.minor ++ ".x"

end RunSteward
