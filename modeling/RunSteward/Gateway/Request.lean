import RunSteward.Gateway.Pause
import RunSteward.Gateway.Refusal
import RunSteward.Gateway.Session
import RunSteward.Json.Writer

/-!
# Requests

A request is sent by a command, again and again until a reply settles it or the attempts are used up. A success or a
refusal settles it; a lost reply, a failing server and a used-up rate limit do not, and the last of these decides the
error.
-/

namespace RunSteward

/-- What is done to a resource. -/
inductive Method where
  | get
  | post
  | put
  | patch
  | delete
deriving DecidableEq, Repr

def Method.name : Method → String
  | .get => "GET"
  | .post => "POST"
  | .put => "PUT"
  | .patch => "PATCH"
  | .delete => "DELETE"

/-- A request. A reading one may name the tag of the reply that is known already. -/
structure Request where
  method : Method
  path : String
  payload : Option Json := none
  etag : Option String := none

namespace Request

/-- The words of the command that sends a request. -/
def argv (r : Request) : List String :=
  ["gh", "api", "--method", r.method.name]
    ++ (match r.etag with | some tag => ["--header", "If-None-Match: " ++ tag] | none => [])
    ++ ["--include", r.path]
    ++ (if r.payload.isSome then ["--input", "-"] else [])

def command (r : Request) (timeLimit : Number) : Command :=
  { argv := r.argv, stdin := r.payload.map Json.write, timeLimit := some timeLimit }

/-! ## Judging replies -/

/-- What an attempt comes to. -/
inductive Verdict where
  | settled (reply : Exchange)
  | refused (e : HostError)
  /-- Another attempt is worth while after a pause; without one this is the error. -/
  | unsettled (e : HostError) (pause : Binary64)

/-- What a reply comes to, given the pause that is due without further advice. -/
def judgeReply (r : Request) (nesting : Nat) (attempt : Int) (backoff : Binary64) (now : Number)
    (reply : Exchange) : Except Fault Verdict :=
  let m := r.method.name
  if reply.isSuccess then .ok (.settled reply)
  else if reply.isRateLimited then
    (Pause.rateLimit reply.headers attempt now).map
      (.unsettled ⟨.rateLimit, "GitHub API rate limit exhausted for " ++ m ++ " " ++ r.path⟩)
  else if 500 ≤ reply.status then
    .ok (.unsettled ⟨.transient, "GitHub API " ++ m ++ " " ++ r.path ++ " failed with status "
      ++ toString reply.status⟩ backoff)
  else (Refusal.error nesting m r.path reply.status reply.body).map .refused

/-- What the output of the command comes to; without any output the command ran out of time. -/
def judge (r : Request) (nesting : Nat) (attempt : Int) (backoff : Binary64) (now : Number)
    (raw : Option String) : Except Fault Verdict :=
  let m := r.method.name
  match raw.map Exchange.read with
  | none =>
    .ok (.unsettled ⟨.transient, "GitHub API " ++ m ++ " timed out for path " ++ r.path⟩ backoff)
  | some (.error e) =>
    .ok (.unsettled ⟨.transient, "GitHub API " ++ m ++ " failed for path " ++ r.path ++ ": "
      ++ e.message⟩ backoff)
  | some (.ok reply) => r.judgeReply nesting attempt backoff now reply

end Request

namespace Gateway

variable {σ : Type}

/-! ## Attempts -/

def seconds (t : Stamp) : Number :=
  .real (.ofRatio (t.posixMicros < 0) t.posixMicros.natAbs 1000000)

/-- Makes sure that the command knows who is asking; if that takes too long it is let pass. -/
def checkAuthentication (g : Gateway σ) : Act (Session σ) Unit := do
  match ← Session.outside (g.station.call true
      { argv := ["gh", "auth", "status"], timeLimit := some g.timeLimit }) with
  | .error (.failed ..) => Act.refuse ⟨.authentication, "GitHub CLI is not authenticated"⟩
  | _ => pure ()

/-- Gives up after the last attempt. -/
def giveUp (g : Gateway σ) (e : HostError) : Act (Session σ) Exchange := do
  if e.kind ≠ .rateLimit then g.checkAuthentication
  Act.refuse e

/-- Notes in the log that an attempt did not settle a request. -/
def noteRetry (g : Gateway σ) (r : Request) (attempt : Int) (e : HostError) (raw : Option String) :
    Act (Session σ) Unit :=
  Act.info logger "github_request_retry"
    [("method", .text r.method.name), ("path", .text r.path), ("attempt", .int attempt),
      ("max_attempts", .int g.maxAttempts), ("error_type", .text e.kind.name),
      ("raw_preview", .text (Text.previewReply (raw.getD "") Refusal.previewLimit))]

/-- Sends a request as often as attempts are left; the error is that of the attempt before. -/
def attemptFrom (g : Gateway σ) (r : Request) : Nat → Option HostError → Act (Session σ) Exchange
  | 0, none => Act.halt .noAttempt
  | 0, some e => g.giveUp e
  | left + 1, _ => do
    let attempt := g.maxAttempts - left
    let backoff ← Act.orHalt (Pause.backoff attempt)
    let output ← Session.outside (g.station.call false (r.command g.timeLimit))
    let raw := output.toOption
    let now ← g.clock
    match ← Act.orHalt (r.judge g.nesting attempt backoff (seconds now) raw) with
    | .settled reply => return reply
    | .refused e => Act.refuse e
    | .unsettled e pause =>
      g.noteRetry r attempt e raw
      if 0 < left then Session.outside (g.station.wait (.real pause))
      g.attemptFrom r left (some e)

/-- Sends a request until it is settled or the attempts are used up. -/
def request (g : Gateway σ) (r : Request) : Act (Session σ) Exchange :=
  g.attemptFrom r g.maxAttempts.toNat none

end Gateway

end RunSteward
