import RunSteward.Log.Event

/-!
# Log records

A record is one message with the place it comes from: the logger, the thread and the repository that the thread works
for.
-/

namespace RunSteward

/-- How grave a record is. -/
inductive LogLevel where
  | debug
  | info
  | warning
  | error
  | critical
deriving DecidableEq, Repr

namespace LogLevel

def rank : LogLevel → Nat
  | .debug => 10
  | .info => 20
  | .warning => 30
  | .error => 40
  | .critical => 50

def name : LogLevel → String
  | .debug => "DEBUG"
  | .info => "INFO"
  | .warning => "WARNING"
  | .error => "ERROR"
  | .critical => "CRITICAL"

end LogLevel

/-- The thread that does the work, and the repository that it does it for. -/
structure Scope where
  thread : String := "MainThread"
  repo : Option String := none
deriving DecidableEq, Repr, Inhabited

namespace Scope

/-- A worker of the pool that looks for duplicate runs. It works for the same repository as the thread that started it. -/
def worker (number : Nat) (s : Scope) : Scope :=
  { s with thread := "repowarden-dedupe_" ++ toString number }

end Scope

/-- A message of the log and where it comes from. -/
structure LogRecord where
  level : LogLevel
  logger : String
  scope : Scope
  message : String
deriving DecidableEq, Repr

namespace LogRecord

/-- The name of a repository in a line; without a repository, or with an empty name, it is a hyphen. -/
def repoTag (repo : Option String) : String :=
  match repo with
  | some r => if r.isEmpty then "-" else r
  | none => "-"

/-- The line of a record, without its time. -/
def line (r : LogRecord) : String :=
  r.level.name ++ " " ++ r.logger ++ " [" ++ r.scope.thread ++ "] [" ++ repoTag r.scope.repo ++ "] "
    ++ r.message

end LogRecord

end RunSteward
