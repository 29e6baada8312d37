import RunSteward.Config.DirPath
import RunSteward.Log.DailyFile
import RunSteward.Log.Setup

/-!
# The handlers of the log

The log has handlers, each with filters of its own, and a level that a record needs to reach any of them. Setting the
log up takes the handlers away, closes what they have open and installs others; a choice that is refused does none of
this. A record goes to every handler whose filters let it pass.
-/

namespace RunSteward

/-- A filter of a handler. -/
inductive LogFilter where
  /-- Marks a record with its repository and lets it pass. -/
  | repoTag
  /-- Lets warnings pass and the events that tell of changes. -/
  | mutations
deriving DecidableEq, Repr

/-- Tells whether a filter lets a record pass. -/
def LogFilter.passes : LogFilter → LogRecord → Bool
  | .repoTag, _ => true
  | .mutations, r => LogSetup.passesLow r

inductive LogTarget where
  | nowhere
  | console
  /-- The daily files below a state directory. -/
  | daily (dir : DirPath)
deriving DecidableEq, Repr

/-- A handler and its filters. -/
structure LogHandler where
  target : LogTarget
  filters : List LogFilter := []
deriving DecidableEq, Repr

namespace LogHandler

def accepts (h : LogHandler) (r : LogRecord) : Bool :=
  h.filters.all fun f => f.passes r

/-- The handlers of a verbosity, which write to the console and below a state directory if there is one. -/
def install (v : Verbosity) (dir? : Option DirPath) : List LogHandler :=
  let filters := match v with
    | .low => [.repoTag, .mutations]
    | .high => [.repoTag]
  (.console :: (dir?.map .daily).toList).map fun target => ⟨target, filters⟩

end LogHandler

/-- The handlers of the log, its level, what stands on the console and the log of each state directory. -/
structure Logbook where
  handlers : List LogHandler := []
  level : Nat := 0
  console : List String := []
  folders : DirPath → DailyLog := fun _ => { blocked := false }

namespace Logbook

/-- Changes the log of a state directory. -/
def atFolder (dir : DirPath) (f : DailyLog → DailyLog) (b : Logbook) : Logbook :=
  { b with folders := fun d => if d = dir then f (b.folders d) else b.folders d }

/-- Closes the file that a handler has open. -/
def close (h : LogHandler) (b : Logbook) : Logbook :=
  match h.target with
  | .daily dir => b.atFolder dir fun l => { l with kept := l.kept.close }
  | .nowhere | .console => b

/-- Takes the handlers away, from the last one on, and closes them. -/
def clear (b : Logbook) : Logbook :=
  { b.handlers.foldr close b with handlers := [] }

/-- Sets the log up, or says why the choice is refused. -/
def configure (choice : VerbosityChoice) (dir? : Option DirPath) (b : Logbook) : Except String Logbook :=
  match choice.read with
  | .error word => .error (VerbosityChoice.unsupported word)
  | .ok none => .ok { b.clear with handlers := [⟨.nowhere, []⟩], level := LogLevel.critical.rank + 1 }
  | .ok (some v) => .ok { b.clear with handlers := LogHandler.install v dir?, level := LogLevel.info.rank }

def handle (now : Stamp) (r : LogRecord) (b : Logbook) (h : LogHandler) : Logbook :=
  if h.accepts r then
    match h.target with
    | .nowhere => b
    | .console => { b with console := b.console ++ [r.line] }
    | .daily dir => b.atFolder dir fun l => l.emit now r.line
  else b

def record (now : Stamp) (r : LogRecord) (b : Logbook) : Logbook :=
  if LogSetup.covers r.logger ∧ b.level ≤ r.level.rank then b.handlers.foldl (handle now r) b else b

end Logbook

/-- What is done with the log. -/
inductive LogStep where
  | configure (choice : VerbosityChoice) (dir? : Option DirPath)
  | record (now : Stamp) (r : LogRecord)

namespace Logbook

/-- Does a step; a choice that is refused changes nothing. -/
def step (b : Logbook) : LogStep → Logbook
  | .configure choice dir? =>
    match b.configure choice dir? with
    | .ok b => b
    | .error _ => b
  | .record now r => b.record now r

def run (b : Logbook) (steps : List LogStep) : Logbook :=
  steps.foldl step b

end Logbook

end RunSteward
