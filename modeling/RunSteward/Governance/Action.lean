import RunSteward.Log.Event

/-!
# Governance actions

What a governance pass did, or would do, to a run: an action names the policy that called for it, the reason and the
outcome. A report lists the actions of a pass in order.
-/

namespace RunSteward

/-- The rule that calls for an action. -/
inductive Policy where
  | duplicateQueued
  | orphanedPullRequest
  | retention
  | cancelledSweep
  | pullRequestPruning
deriving DecidableEq, Repr

def Policy.name : Policy → String
  | .duplicateQueued => "duplicate_queued"
  | .orphanedPullRequest => "orphaned_pull_request"
  | .retention => "retention"
  | .cancelledSweep => "cancelled_sweep"
  | .pullRequestPruning => "pull_request_pruning"

/-- What is done to a run. -/
inductive ActionKind where
  | cancel
  | remove
deriving DecidableEq, Repr

def ActionKind.name : ActionKind → String
  | .cancel => "cancel"
  | .remove => "remove"

/-- How an action ended. In a rehearsal it is only planned. -/
inductive ActionOutcome where
  | done
  | noop
  | failed
  | planned
deriving DecidableEq, Repr

def ActionOutcome.name : ActionOutcome → String
  | .done => "done"
  | .noop => "noop"
  | .failed => "failed"
  | .planned => "planned"

/-- Why a run is acted upon. -/
inductive Reason where
  | superseded
  | noOpenPullRequest
  | stale
  | expiredSuccess
  | expiredFailure
  | cancelled
  | untrustedWithoutLabel
deriving DecidableEq, Repr

def Reason.text : Reason → String
  | .superseded => "superseded_by_newer_run"
  | .noOpenPullRequest => "no_open_pull_request"
  | .stale => "stale"
  | .expiredSuccess => "expired_success"
  | .expiredFailure => "expired_failure"
  | .cancelled => "cancelled"
  | .untrustedWithoutLabel => "untrusted_without_ci_label"

/-- An action on a run, with the reason in words. -/
structure Action where
  policy : Policy
  kind : ActionKind
  runId : Int
  runName : String
  headBranch : String
  reason : String
  outcome : ActionOutcome
deriving DecidableEq, Repr

/-- What the log says about an action. -/
def Action.fields (a : Action) : LogFields := [
  ("policy", .text a.policy.name), ("action", .text a.kind.name), ("run_id", .int a.runId),
  ("workflow", .text a.runName), ("head_branch", .text a.headBranch), ("reason", .text a.reason),
  ("outcome", .text a.outcome.name)]

/-- The actions of a pass, in order. -/
structure Report where
  actions : List Action
deriving DecidableEq, Repr

namespace Report

/-- The number of actions of a kind and an outcome; an absent part does not restrict the count. -/
def count (r : Report) (kind : Option ActionKind) (outcome : Option ActionOutcome) : Nat :=
  r.actions.countP fun a =>
    (kind.all fun k => a.kind == k) && (outcome.all fun o => a.outcome == o)

/-- The actions that changed something, or would. -/
def mutations (r : Report) : List Action :=
  r.actions.filter fun a => a.outcome == .done || a.outcome == .planned

end Report

end RunSteward
