import RunSteward.Config.Settings
import RunSteward.Failure
import RunSteward.Governance.Action
import RunSteward.Repository.WorkflowRun

/-!
# Retention

A run is kept for a number of days after its last update. Every run expires when it is stale; a push run expires
earlier, at one age if it was a success and at another if it was not.
-/

namespace RunSteward

/-- The event of a run that a push started. -/
def pushEvent : String := "push"

/-- The greatest number of days that can be counted. -/
def maxDays : Nat := 999999999

/-- The instant that lies so many days after a stamp, if the calendar reaches so far. -/
def Stamp.afterDays? (t : Stamp) (days : Int) : Option Int :=
  let day := (t.date.number : Int) + days
  if days.natAbs ≤ maxDays ∧ 1 ≤ day ∧ day ≤ lastDayNumber then
    some (t.instant + days * microsPerDay)
  else none

namespace WorkflowRun

/-- Tells whether a number of days has gone by since the last update. -/
def isOlderThan (r : WorkflowRun) (days : Int) (now : Stamp) : Except Fault Bool :=
  match r.updatedAt.afterDays? days with
  | some t => .ok (t < now.instant)
  | none => .error .dateOutOfRange

/-- Why a run has expired, if it has. -/
def expiry (r : WorkflowRun) (settings : GovernanceSettings) (now : Stamp) :
    Except Fault (Option Reason) := do
  if ← r.isOlderThan settings.staleRunRetentionDays now then return some .stale
  else if r.event ≠ pushEvent then return none
  else if r.concludedSuccessfully then
    if ← r.isOlderThan settings.successRetentionDays now then return some .expiredSuccess
    else return none
  else if ← r.isOlderThan settings.failureRetentionDays now then return some .expiredFailure
  else return none

end WorkflowRun

end RunSteward
