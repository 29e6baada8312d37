/-!
# Failures

A host refuses a request with a host error, which carries its kind and a message; callers recover from it. A fault is an
input or a setting that the work cannot go on with; nothing recovers from a fault.
-/

namespace RunSteward

/-- The kind of a host error. A transient error may be gone in a later pass, and a used-up rate limit is one of these. -/
inductive HostErrorKind where
  | general
  | transient
  | rateLimit
  | notFound
  | conflict
  | authentication
deriving DecidableEq, Repr

def HostErrorKind.name : HostErrorKind → String
  | .general => "HostError"
  | .transient => "HostTransientError"
  | .rateLimit => "HostRateLimitError"
  | .notFound => "HostNotFoundError"
  | .conflict => "HostConflictError"
  | .authentication => "HostAuthenticationError"

structure HostError where
  kind : HostErrorKind
  message : String
deriving DecidableEq, Repr

/-- A cause that work cannot go on with. -/
inductive Fault where
  /-- A page of runs was asked for by a number below one. -/
  | pageNumber
  /-- A governor was given no worker. -/
  | workerCount
  /-- A gateway may not even try once. -/
  | noAttempt
  /-- The time limit of a command is beyond all numbers. -/
  | timeLimit
  /-- The pause before the next attempt is beyond all numbers. -/
  | pauseTooLong
  /-- The pause that a reply asks for is not a decimal number. -/
  | pauseUnreadable
  /-- The link to the next page is not a well-formed URL. -/
  | linkUnreadable
  /-- The content of a file is not in ASCII, so it is not base64. -/
  | contentNotAscii
  /-- A retention period ends after the last day of the calendar. -/
  | dateOutOfRange
  /-- A number has more digits than can be read or written. -/
  | numeralTooLong
  /-- A payload is nested deeper than can be read. -/
  | nestedTooDeep
  /-- A listing has more pages than its host promised. -/
  | endlessListing
deriving DecidableEq, Repr

namespace Fault

/-- The message of a fault, where there is more to say than its kind. -/
def message? : Fault → Option String
  | .pageNumber => some "page must be >= 1"
  | .workerCount => some "worker_count must be >= 1"
  | .noAttempt => some "Unreachable GitHub API retry state"
  | _ => none

end Fault

/-- The end of work that gives no result. -/
inductive Failure where
  | host (e : HostError)
  | fault (f : Fault)
deriving DecidableEq, Repr

end RunSteward
