import RunSteward.Branches.Active
import RunSteward.Governance.Pass
import RunSteward.PullRequest.Merge
import RunSteward.PullRequest.Resume
import RunSteward.Version.Manifest

/-!
# The steward

The steward looks after one repository of a host: it knows the active milestones, branches and labels, finds the version
that the main branch is at, and runs governance passes, once or again and again.
-/

namespace RunSteward

variable {σ : Type}

/-- What looks after a repository. -/
structure Steward (σ : Type) where
  config : AppConfig
  governor : Governor σ

/-- What there is to say about a repository. -/
structure Summary where
  fullName : String
  htmlUrl : String
  mainlineBranch : String
  mainlineVersion : Option String
  mainlineMilestone : Option String
deriving DecidableEq, Repr

namespace Steward

def logger : String := "repowarden.controller"

/-- The steward of a host, as the settings want it. -/
def of? (config : AppConfig) (host : Host σ) (clock : Act σ Stamp) (rehearsal : Bool) :
    Except Fault (Steward σ) :=
  (Governor.of? host config.governance clock config.runtime.workerCount rehearsal).map (⟨config, ·⟩)

def host (s : Steward σ) : Host σ :=
  s.governor.host

def fullName (s : Steward σ) : String :=
  s.config.repo.fullName

def coordinator (s : Steward σ) : Coordinator σ :=
  ⟨s.host, s.config.repo⟩

def resumeGate (s : Steward σ) : ResumeGate σ :=
  ⟨s.host, s.config.governance⟩

/-! ## What is active -/

def activeMilestones (s : Steward σ) : Act σ (List Milestone) :=
  s.host.openMilestones

def branchesUnder (s : Steward σ) (milestones : List Milestone) : Act σ (List Branch) :=
  s.host.activeBranches (.ofRepo s.config.repo) milestones

def activeBranches (s : Steward σ) : Act σ (List Branch) := do
  s.branchesUnder (← s.activeMilestones)

/-- The labels of the repository; none if a page of them is refused. -/
def activeLabels (s : Steward σ) : Act σ (List Label) := do
  match ← Act.attempt (s.host.collect .labels) with
  | .error e =>
    Act.warn logger "labels_fetch_failed" (Act.errorFields e)
    return []
  | .ok labels =>
    Act.info logger "labels_fetched" [("count", .int labels.length)]
    return labels

/-! ## The main branch -/

/-- The version in the manifest of the main branch. -/
def currentVersion (s : Steward σ) : Act σ (Option Version) := do
  let repo := s.config.repo
  match ← Act.attempt (s.host.fileText repo.versionFile repo.mainlineBranch) with
  | .error e =>
    Act.warn logger "mainline_version_unavailable"
      (("path", .text repo.versionFile) :: Act.errorFields e)
    return none
  | .ok manifest =>
    let version ← Act.orHalt (Manifest.version manifest "version")
    let text ← Act.orHalt (version.mapM Version.text)
    Act.info logger "mainline_version_resolved"
      [("path", .text repo.versionFile), ("version", .maybe text)]
    return version

def milestoneFor (s : Steward σ) (version : Version) : Act σ (Option Milestone) := do
  resolveMainline version (← s.activeMilestones)

def mainlineMilestone (s : Steward σ) : Act σ (Option Milestone) := do
  match ← s.currentVersion with
  | none => return none
  | some version => s.milestoneFor version

def describe (s : Steward σ) : Act σ Summary :=
  Act.forRepo s.fullName do
    let repo := s.config.repo
    let version ← s.currentVersion
    let milestone ← match version with
      | none => pure none
      | some v => s.milestoneFor v
    let text ← Act.orHalt (version.mapM Version.text)
    return ⟨repo.fullName, repo.htmlUrl, repo.mainlineBranch, text, milestone.map Milestone.title⟩

/-! ## Passes -/

/-- One governance pass over the governed branches. -/
def runPass (s : Steward σ) : Act σ Report :=
  Act.forRepo s.fullName do
    s.governor.runPass (← s.activeBranches)

/-- How a run of passes ended: it was done, or a wait told it to stop. -/
inductive RunEnd where
  | finished
  | stopped
deriving DecidableEq, Repr

/-- Passes with a wait between them, until the wait tells to stop; the bound says how many passes are looked at. -/
def runUntil (s : Steward σ) (wait : Int → Act σ Bool) : Nat → Act σ RunEnd
  | 0 => pure .stopped
  | passes + 1 => do
    let _ ← s.runPass
    if ← wait s.config.runtime.pollIntervalSeconds then return .stopped
    else s.runUntil wait passes

/-- One pass, or passes until the wait tells to stop. -/
def run (s : Steward σ) (once : Bool) (wait : Int → Act σ Bool) (passes : Nat) : Act σ RunEnd := do
  if once then
    let _ ← s.runPass
    return .finished
  else s.runUntil wait passes

end Steward

end RunSteward
