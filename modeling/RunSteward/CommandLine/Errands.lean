import RunSteward.CommandLine.Invocation
import RunSteward.Gateway.Writes
import RunSteward.Json.Writer
import RunSteward.Plan.Viewer
import RunSteward.Steward

/-!
# Errands of the program

Each errand is done through a gateway that the settings describe. It ends with an exit code and what is printed; the
polling errand ends only when a wait tells it to stop.
-/

namespace RunSteward

variable {σ : Type}

namespace Summary

def textOrNull (s : Option String) : Json :=
  (s.map .string).getD .null

def data (s : Summary) : Json :=
  .object [("name", .string s.fullName), ("repository", .string s.htmlUrl),
    ("mainline_branch", .string s.mainlineBranch), ("version", textOrNull s.mainlineVersion),
    ("milestone", textOrNull s.mainlineMilestone)]

end Summary

structure Finish where
  code : Nat := 0
  output : String := ""
  frames : List Frame := []
  stopped : Bool := false
deriving DecidableEq, Repr

/-- The circumstances that errands are done in: the station, the wait between passes with the number of passes that are
looked at, and the keys that are pressed. -/
structure Circumstances (σ : Type) where
  station : Station σ
  pageLimit : Nat
  wait : Int → Act (Session σ) Bool
  passes : Nat
  keys : List ViewerKey

namespace Errand

def makesBaseDir : Errand → Bool
  | .run .. => true
  | _ => false

end Errand

/-- Where the log of an invocation goes: with a verbosity, also to files. -/
def Invocation.logSetup (i : Invocation) : LogSetup :=
  ⟨i.verbosity, i.verbosity.isSome⟩

namespace AppConfig

def gateway (config : AppConfig) (station : Station σ) : Except Fault (Gateway σ) :=
  match Binary64.ofInt? config.runtime.ghTimeoutSeconds with
  | none => .error .timeLimit
  | some limit =>
    .ok { station, owner := config.repo.owner, name := config.repo.name
          timeLimit := .real limit, maxAttempts := config.runtime.ghMaxAttempts }

end AppConfig

namespace Circumstances

def host (c : Circumstances σ) (config : AppConfig) : Act (Session σ) (Host (Session σ)) := do
  let g ← Act.orHalt (config.gateway c.station)
  return g.host c.pageLimit

def stewardOn (c : Circumstances σ) (config : AppConfig) (h : Host (Session σ)) (rehearsal : Bool) :
    Act (Session σ) (Steward (Session σ)) :=
  Act.orHalt (Steward.of? config h (Session.outside c.station.clock) rehearsal)

def steward (c : Circumstances σ) (config : AppConfig) (rehearsal : Bool) :
    Act (Session σ) (Steward (Session σ)) := do
  c.stewardOn config (← c.host config) rehearsal

/-! ## Errands -/

/-- Govern the runs of the repository, once or again and again. -/
def run (c : Circumstances σ) (config : AppConfig) (once rehearsal : Bool) :
    Act (Session σ) Finish := do
  let s ← c.steward config rehearsal
  let ended ← s.run once c.wait c.passes
  return { stopped := ended == .stopped }

/-- Show what a pass would do, as data or in the viewer. -/
def plan (c : Circumstances σ) (config : AppConfig) (asData : Bool) : Act (Session σ) Finish := do
  let s ← c.steward config true
  if asData then return { output := Json.writeBlock 0 (← s.runPass).data ++ "\n" }
  else return { frames := ← Viewer.frames s.fullName s.runPass c.keys }

/-- Print the summary of the repository. -/
def status (c : Circumstances σ) (config : AppConfig) : Act (Session σ) Finish := do
  let s ← c.steward config false
  return { output := Json.writeBlock 0 (← s.describe).data ++ "\n" }

/-- The exit code for an outcome of bringing the base branch in. -/
def codeOf : BaseMergeOutcome → Nat
  | .merged => 0
  | .failed => 1
  | .notFound => 2
  | .locked => 3

def mergeWithBase (c : Circumstances σ) (config : AppConfig) (number : Int) :
    Act (Session σ) Finish := do
  let s ← c.steward config false
  let result ← s.coordinator.mergeWithBase number
  return { code := codeOf result.outcome
           output := "pr_number=" ++ toString number ++ " outcome=" ++ result.outcome.name ++ "\n" }

def merge (c : Circumstances σ) (config : AppConfig) (number : Int) : Act (Session σ) Finish := do
  let tell (code : Nat) (text : String) : Finish :=
    { code, output := "pr_number=" ++ toString number ++ " merged=" ++ text ++ "\n" }
  let h ← c.host config
  match ← Act.attempt (h.pullRequest number) with
  | .error _ => return tell 1 "false reason=failed"
  | .ok none => return tell 1 "false reason=not_found"
  | .ok (some pr) =>
    let s ← c.stewardOn config h false
    if ← s.coordinator.mergeIntoBase pr then return tell 0 "true" else return tell 1 "false"

def resumeCi (c : Circumstances σ) (config : AppConfig) (number : Int) : Act (Session σ) Finish := do
  let skip : Finish := { code := 1, output := "skip\n" }
  let h ← c.host config
  match ← Act.attempt (h.pullRequest number) with
  | .ok (some pr) =>
    let s ← c.stewardOn config h false
    if ← s.resumeGate.shouldResume pr then return { output := "resume\n" } else return skip
  | _ => return skip

def perform (c : Circumstances σ) (config : AppConfig) : Errand → Act (Session σ) Finish
  | .run once rehearsal => c.run config once rehearsal
  | .plan asData => c.plan config asData
  | .status => c.status config
  | .mergeWithBase n => c.mergeWithBase config n
  | .merge n => c.merge config n
  | .resumeCi n => c.resumeCi config n

end Circumstances

end RunSteward
