import RunSteward.Log.Record
import RunSteward.Text.Case
import RunSteward.Text.Quoted

/-!
# Setting up the log

The log is silent, or it is written to the error stream and perhaps to daily files as well. At low verbosity only
warnings and the events that tell of changes are written. A setup that is refused leaves the one before it in force.
-/

namespace RunSteward

/-! ## Verbosity -/

/-- How much is written. -/
inductive Verbosity where
  | low
  | high
deriving DecidableEq, Repr

def Verbosity.name : Verbosity → String
  | .low => "low"
  | .high => "high"

/-- How the verbosity is asked for: not at all, by a flag or by a word. -/
inductive VerbosityChoice where
  | unset
  | flag (b : Bool)
  | word (s : String)
deriving DecidableEq, Repr

namespace VerbosityChoice

/-- The message about a word that names no verbosity. -/
def unsupported (word : String) : String :=
  "Unsupported verbose mode: " ++ Text.quoted word

/-- The verbosity that is asked for, nothing meaning silence; a word that names none is given back as the error. -/
def read : VerbosityChoice → Except String (Option Verbosity)
  | .unset | .flag false => .ok none
  | .flag true => .ok (some .high)
  | .word s =>
    let mode := Text.lower (Text.trim s)
    if mode = "low" then .ok (some .low)
    else if mode = "high" then .ok (some .high)
    else .error s

end VerbosityChoice

/-! ## The setup -/

/-- The events that tell of a change on the host or of a whole pass. -/
def mutationEvents : List String := [
  "governance_pass_started", "governance_pass_completed", "workflow_run_cancelled",
  "workflow_run_removed", "workflow_run_cancel_failed", "workflow_run_remove_failed",
  "ci_resume_authorized", "github_pr_merged", "github_pr_merge_failed", "github_base_merged",
  "github_label_added", "github_label_removed", "github_comment_posted", "github_pr_closed",
  "github_status_created", "github_check_run_created"]

/-- Where the log goes and how much of it; no verbosity means silence. -/
structure LogSetup where
  verbosity : Option Verbosity := none
  toFiles : Bool := false
deriving DecidableEq, Repr

namespace LogSetup

def read (choice : VerbosityChoice) (files : Bool) : Except String LogSetup :=
  choice.read.map fun v => ⟨v, files && v.isSome⟩

/-- The rank that a record needs at least. -/
def threshold (s : LogSetup) : Nat :=
  if s.verbosity.isNone then LogLevel.critical.rank + 1 else LogLevel.info.rank

def passesLow (r : LogRecord) : Bool :=
  LogLevel.warning.rank ≤ r.level.rank
    || (LogEvent.name? r.message).any fun name => mutationEvents.contains name

/-- The logger that all loggers of the program stand below. -/
def rootLogger : String := "repowarden"

def covers (logger : String) : Bool :=
  logger == rootLogger || (rootLogger ++ ".").toList.isPrefixOf logger.toList

def writes (s : LogSetup) (r : LogRecord) : Bool :=
  covers r.logger && s.threshold ≤ r.level.rank
    && match s.verbosity with
      | none => false
      | some .high => true
      | some .low => passesLow r

/-- The records that are written, in order. -/
def written (s : LogSetup) (records : List LogRecord) : List LogRecord :=
  records.filter s.writes

/-- The texts that are written, one for each record. -/
def texts (s : LogSetup) (records : List LogRecord) : List String :=
  (s.written records).map LogRecord.line

end LogSetup

end RunSteward
