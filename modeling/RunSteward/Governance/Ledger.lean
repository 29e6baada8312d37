import RunSteward.Governance.Action

/-!
# The ledger of a pass

The ledger keeps what a pass has done, so that no run is cancelled or removed twice. A failed action does not count; a
removed run needs no further action of any kind.
-/

namespace RunSteward

/-- The actions of a pass so far, with the runs that were cancelled and removed. -/
structure Ledger where
  actions : List Action := []
  cancelled : List Int := []
  removed : List Int := []
deriving DecidableEq, Repr

namespace Ledger

/-- A ledger with one more action. -/
def record (l : Ledger) (a : Action) : Ledger :=
  let actions := l.actions ++ [a]
  if a.outcome = .failed then { l with actions := actions }
  else
    match a.kind with
    | .cancel => { l with actions := actions, cancelled := a.runId :: l.cancelled }
    | .remove => { l with actions := actions, removed := a.runId :: l.removed }

/-- Tells whether an action of a kind on a run would repeat what was done. -/
def already (l : Ledger) (kind : ActionKind) (runId : Int) : Bool :=
  l.removed.contains runId || (kind == .cancel && l.cancelled.contains runId)

/-- The report of the actions so far. -/
def report (l : Ledger) : Report :=
  ⟨l.actions⟩

end Ledger

end RunSteward
