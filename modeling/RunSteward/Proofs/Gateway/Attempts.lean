import RunSteward.Proofs.Gateway.Pauses
import RunSteward.Proofs.Gateway.Printout
import RunSteward.Proofs.Gateway.Recording
import RunSteward.Proofs.Gateway.Serving
import RunSteward.Proofs.Json.Limits
import RunSteward.Proofs.Text.Blank

/-!
# Attempts

A request is attempted until an attempt is final or all attempts are used up (`request_retries`). The attempts are one
and the same command, with a pause between any two of them and none before or after. What the request comes to is
decided by the last attempt alone (`Gateway.Concluded`): a final reply by itself, and otherwise, unless the rate limit
is used up, by asking once who is logged in. A final reply that refuses the request may carry an explanation that cannot
be read; then the request breaks off.
-/

namespace RunSteward

variable {σ : Type}

/-! ## What an attempt shows -/

namespace Exchange

def Succeeded (x : Exchange) : Prop :=
  (200 ≤ x.status ∧ x.status < 300) ∨ x.status = 304

/-- A reply that the rate limit is used up. -/
def Throttled (x : Exchange) : Prop :=
  x.status = 429 ∨
    (x.status = 403 ∧ (x.headers.value? "x-ratelimit-remaining" = some "0" ∨
      (x.headers.value? "retry-after").isSome = true))

instance (x : Exchange) : Decidable x.Throttled :=
  inferInstanceAs (Decidable (_ ∨ _ ∧ (_ ∨ _)))

/-- A reply that settles a request, one way or the other. -/
def Final (x : Exchange) : Prop :=
  x.Succeeded ∨ (x.status < 500 ∧ ¬x.Throttled)

/-- A reply in whose headers the length of a pause, if it is a row of digits, is written in ASCII digits. -/
def PlainDigits (x : Exchange) : Prop :=
  ∀ name ∈ ["retry-after", "x-ratelimit-reset"], ∀ digits, Pause.digits? x.headers name = some digits →
    ∀ c ∈ digits, c.isDigit = true

/-- The kind of error that a reply stands for which refuses a request. -/
structure RefusedAs (x : Exchange) (kind : HostErrorKind) : Prop where
  notFound : kind = .notFound ↔ x.status = 404 ∨ x.status = 410
  conflict : kind = .conflict ↔ x.status = 409 ∨ x.status = 422
  authentication : kind = .authentication ↔ x.status = 401
  general : kind = .general ↔ x.status ∉ [404, 410, 409, 422, 401]

variable {x : Exchange}

theorem isSuccess_iff : x.isSuccess = true ↔ x.Succeeded := by
  simp [isSuccess, Succeeded]

theorem isRateLimited_iff : x.isRateLimited = true ↔ x.Throttled := by
  simp [isRateLimited, Throttled]

theorem Throttled.not_succeeded (h : x.Throttled) : ¬x.Succeeded := by
  unfold Throttled at h
  unfold Succeeded
  omega

theorem Throttled.not_final (h : x.Throttled) : ¬x.Final := by
  rintro (hsucceeded | ⟨-, hnot⟩)
  · exact h.not_succeeded hsucceeded
  · exact hnot h

theorem refusedAs_kindOf (x : Exchange) : x.RefusedAs (Refusal.kindOf x.status) := by
  unfold Refusal.kindOf
  by_cases hgone : x.status = 404 ∨ x.status = 410
  · rw [if_pos hgone]
    constructor <;> simp <;> omega
  rw [if_neg hgone]
  by_cases hconflict : x.status = 409 ∨ x.status = 422
  · rw [if_pos hconflict]
    constructor <;> simp <;> omega
  rw [if_neg hconflict]
  by_cases hauthentication : x.status = 401
  · rw [if_pos hauthentication]
    constructor <;> simp <;> omega
  · rw [if_neg hauthentication]
    constructor <;> simp <;> omega

end Exchange

namespace CommandEnd

/-- The reply that a command printed, if it can be read. -/
def reply? (e : CommandEnd) : Option Exchange :=
  (e.output?.map Exchange.read).bind Except.toOption

/-- An attempt that ended with a final reply. -/
def Final (e : CommandEnd) : Prop :=
  ∃ x, e.reply? = some x ∧ x.Final

def Failed (e : CommandEnd) : Prop :=
  ∃ code output errors, e = .exited code output errors ∧ code ≠ 0

end CommandEnd

/-! ## Pauses that can be read -/

namespace Text

theorem digitValue?_of_isDigit {c : Char} (h : c.isDigit = true) : (digitValue? c).isSome = true := by
  have hrange : 0x30 ≤ c.toNat ∧ c.toNat < 0x30 + 10 := by
    simp only [Char.isDigit, Bool.and_eq_true, decide_eq_true_eq, ge_iff_le, UInt32.le_iff_toNat_le] at h
    exact ⟨h.1, Nat.lt_succ_of_le h.2⟩
  unfold digitValue? digitZeros
  rw [List.find?_cons_of_pos (by simpa using hrange)]
  rfl

end Text

namespace Pause

variable {attempt : Int}

theorem not_ornate_of_plainDigits {x : Exchange} (h : x.PlainDigits) : ¬Ornate x.headers := by
  rintro ⟨digits, hwanted, c, hc, hornament⟩
  have hdigit : c.isDigit = true := by
    rcases Option.or_eq_some_iff.mp hwanted with hafter | ⟨-, hreset⟩
    · exact h _ (by simp) digits hafter c hc
    · exact h _ (by simp) digits hreset c hc
  rw [Text.isDigit, Text.digitValue?_of_isDigit hdigit] at hornament
  cases hornament

/-- The pause that a reply asks for is known, unless its digits are not those of ASCII. -/
theorem rateLimit_cases (x : Exchange) (hfirst : 1 ≤ attempt) (hmost : attempt ≤ 1024) (t : Stamp) :
    (∃ pause, rateLimit x.headers attempt (Gateway.seconds t) = .ok pause) ∨
      (rateLimit x.headers attempt (Gateway.seconds t) = .error .pauseUnreadable ∧ ¬x.PlainDigits) := by
  rcases rateLimit_told x.headers (backoff_of_le hfirst hmost) t with ⟨pause, hpause, -⟩ | ⟨hpause, hornate⟩
  · exact .inl ⟨pause, hpause⟩
  · exact .inr ⟨hpause, fun hplain => not_ornate_of_plainDigits hplain hornate⟩

end Pause

/-! ## What an attempt comes to -/

theorem Refusal.explanation_fault {nesting : Nat} {body : String} {f : Fault}
    (h : explanation nesting body = .error f) : Json.Limit f := by
  unfold explanation at h
  dsimp only at h
  split at h
  · cases h
  · rcases hread : Json.read nesting (Text.trim body) with f' | payload <;> rw [hread] at h
    · obtain rfl : f' = f := Except.error.inj h
      exact Json.read_fault hread
    · cases h

namespace Request

/-- The error of a request whose last attempt was not final. -/
def complaint (r : Request) (e : CommandEnd) : HostError :=
  let m := r.method.name
  match e.output?.map Exchange.read with
  | none => ⟨.transient, "GitHub API " ++ m ++ " timed out for path " ++ r.path⟩
  | some (.error error) => ⟨.transient, "GitHub API " ++ m ++ " failed for path " ++ r.path ++ ": " ++ error.message⟩
  | some (.ok x) =>
    if x.Throttled then ⟨.rateLimit, "GitHub API rate limit exhausted for " ++ m ++ " " ++ r.path⟩
    else ⟨.transient, "GitHub API " ++ m ++ " " ++ r.path ++ " failed with status " ++ toString x.status⟩

/-- The error of a request whose last attempt was refused. -/
structure Refuses (r : Request) (nesting : Nat) (x : Exchange) (e : HostError) : Prop where
  kind : x.RefusedAs e.kind
  message : ∃ explanation, Refusal.explanation nesting x.body = .ok explanation ∧
    e.message = "GitHub API " ++ r.method.name ++ " " ++ r.path ++ " failed with status "
      ++ toString x.status ++ ": " ++ explanation

/-- What an attempt comes to: a final one settles the request or refuses it, another one is worth a pause. -/
inductive Judged (r : Request) (nesting : Nat) (e : CommandEnd) : Except Fault Verdict → Prop where
  | settled {x : Exchange} (hreply : e.reply? = some x) (hx : x.Succeeded) : Judged r nesting e (.ok (.settled x))
  | refused {x : Exchange} {error : HostError} (hreply : e.reply? = some x) (hfinal : x.Final)
      (hx : ¬x.Succeeded) (herror : r.Refuses nesting x error) : Judged r nesting e (.ok (.refused error))
  | unexplained {x : Exchange} {f : Fault} (hreply : e.reply? = some x) (hfinal : x.Final) (hx : ¬x.Succeeded)
      (hbody : Refusal.explanation nesting x.body = .error f) : Judged r nesting e (.error f)
  | unsettled (hlost : ¬e.Final) (pause : Binary64) : Judged r nesting e (.ok (.unsettled (r.complaint e) pause))
  | unreadable {x : Exchange} (hreply : e.reply? = some x) (hornate : ¬x.PlainDigits) :
      Judged r nesting e (.error .pauseUnreadable)

variable {r : Request} {nesting : Nat} {e : CommandEnd} {x : Exchange} {attempt : Int}

theorem judgeReply_judged (hread : e.output?.map Exchange.read = some (.ok x)) (hfirst : 1 ≤ attempt)
    (hmost : attempt ≤ 1024) (backoff : Binary64) (t : Stamp) :
    r.Judged nesting e (r.judgeReply nesting attempt backoff (Gateway.seconds t) x) := by
  have hreply : e.reply? = some x := by rw [CommandEnd.reply?, hread]; rfl
  have hfinal : e.Final ↔ x.Final := by simp [CommandEnd.Final, hreply]
  simp only [judgeReply]
  by_cases hsucceeded : x.Succeeded
  · rw [if_pos (Exchange.isSuccess_iff.mpr hsucceeded)]
    exact .settled hreply hsucceeded
  rw [if_neg (mt Exchange.isSuccess_iff.mp hsucceeded)]
  have hlater : ∀ pause, ¬e.Final → r.Judged nesting e (.ok (.unsettled (r.complaint e) pause)) :=
    fun pause hlost => .unsettled hlost pause
  rw [complaint, hread] at hlater
  by_cases hthrottled : x.Throttled
  · rw [if_pos (Exchange.isRateLimited_iff.mpr hthrottled)]
    simp only [if_pos hthrottled] at hlater
    rcases Pause.rateLimit_cases x hfirst hmost t with ⟨pause, hpause⟩ | ⟨hpause, hornate⟩
    · rw [hpause]
      exact hlater pause (mt hfinal.mp hthrottled.not_final)
    · rw [hpause]
      exact .unreadable hreply hornate
  rw [if_neg (mt Exchange.isRateLimited_iff.mp hthrottled)]
  simp only [if_neg hthrottled] at hlater
  by_cases hserver : 500 ≤ x.status
  · rw [if_pos hserver]
    refine hlater backoff fun hsettled => ?_
    rcases hfinal.mp hsettled with hx | ⟨hx, -⟩
    · exact hsucceeded hx
    · omega
  · have hsettled : x.Final := .inr ⟨by omega, hthrottled⟩
    rw [if_neg hserver, Refusal.error]
    rcases hbody : Refusal.explanation nesting x.body with f | explanation
    · exact .unexplained hreply hsettled hsucceeded hbody
    · exact .refused hreply hsettled hsucceeded ⟨x.refusedAs_kindOf, explanation, hbody, rfl⟩

theorem judge_judged (r : Request) (nesting : Nat) (e : CommandEnd) (hfirst : 1 ≤ attempt) (hmost : attempt ≤ 1024)
    (backoff : Binary64) (t : Stamp) :
    r.Judged nesting e (r.judge nesting attempt backoff (Gateway.seconds t) e.output?) := by
  have hlater : ¬e.Final → r.Judged nesting e (.ok (.unsettled (r.complaint e) backoff)) :=
    fun hlost => .unsettled hlost backoff
  rw [complaint] at hlater
  rw [judge]
  rcases hread : e.output?.map Exchange.read with _ | error | x
  · have hreply : e.reply? = none := by rw [CommandEnd.reply?, hread]; rfl
    rw [hread] at hlater
    exact hlater fun hfinal => by simp [CommandEnd.Final, hreply] at hfinal
  · have hreply : e.reply? = none := by rw [CommandEnd.reply?, hread]; rfl
    rw [hread] at hlater
    exact hlater fun hfinal => by simp [CommandEnd.Final, hreply] at hfinal
  · exact judgeReply_judged hread hfirst hmost backoff t

end Request

/-! ## One attempt -/

namespace Gateway

open Act

variable {g : Gateway σ} {r : Request} {left : Nat} {s : Scope} {d : Desk (Session σ)}

/-- The command that asks who is logged in. -/
def loginCommand (g : Gateway σ) : Command :=
  { argv := ["gh", "auth", "status"], timeLimit := some g.timeLimit }

/-- How a request ends after its last attempt, and what is asked of the station after that. -/
inductive Concluded (g : Gateway σ) (r : Request) (last : CommandEnd) :
    List StationEvent → Except Failure Exchange → Prop where
  | settled {x : Exchange} (hreply : last.reply? = some x) (hx : x.Succeeded) : Concluded g r last [] (.ok x)
  | refused {x : Exchange} {error : HostError} (hreply : last.reply? = some x) (hfinal : x.Final)
      (hx : ¬x.Succeeded) (herror : r.Refuses g.nesting x error) : Concluded g r last [] (.error (.host error))
  | unexplained {x : Exchange} {f : Fault} (hreply : last.reply? = some x) (hfinal : x.Final) (hx : ¬x.Succeeded)
      (hbody : Refusal.explanation g.nesting x.body = .error f) (hlimit : Json.Limit f) :
      Concluded g r last [] (.error (.fault f))
  | throttled (hlost : ¬last.Final) (hkind : (r.complaint last).kind = .rateLimit) :
      Concluded g r last [] (.error (.host (r.complaint last)))
  | loggedIn {login : CommandEnd} (hlost : ¬last.Final) (hkind : (r.complaint last).kind ≠ .rateLimit)
      (hlogin : ¬login.Failed) :
      Concluded g r last [.ran g.loginCommand login] (.error (.host (r.complaint last)))
  | loggedOut {login : CommandEnd} (hlost : ¬last.Final) (hkind : (r.complaint last).kind ≠ .rateLimit)
      (hlogin : login.Failed) :
      Concluded g r last [.ran g.loginCommand login]
        (.error (.host ⟨.authentication, "GitHub CLI is not authenticated"⟩))

/-- A login that failed is an error, and any other one is let pass. -/
theorem checkAuthentication_apply {login : CommandEnd} {w : σ}
    (hrun : g.station.run g.loginCommand d.world.world = (login, w)) :
    ∃ log, (¬login.Failed ∧ g.checkAuthentication s d = (.ok (), ⟨{ d.world with world := w }, log⟩)) ∨
      (login.Failed ∧ g.checkAuthentication s d =
        (.error (.host ⟨.authentication, "GitHub CLI is not authenticated"⟩), ⟨{ d.world with world := w }, log⟩)) := by
  obtain ⟨log, hcall⟩ := call_apply g.station true g.loginCommand s d
  rw [hrun] at hcall
  refine ⟨log, ?_⟩
  cases login with
  | timedOut =>
    refine .inl ⟨?_, bind_of_ok _ hcall⟩
    rintro ⟨code, output, errors, hended, -⟩
    cases hended
  | exited code output errors =>
    by_cases hcode : code = 0
    · have hpassed : Station.judge true g.loginCommand (.exited code output errors) = .ok output := by
        simp [Station.judge, hcode]
      rw [hpassed] at hcall
      refine .inl ⟨?_, bind_of_ok _ hcall⟩
      rintro ⟨_, _, _, hended, hnonzero⟩
      cases hended
      exact hnonzero hcode
    · have hfailed : Station.judge true g.loginCommand (.exited code output errors) =
          .error (.failed g.loginCommand code output errors) := by
        simp [Station.judge, hcode]
      rw [hfailed] at hcall
      exact .inr ⟨⟨code, output, errors, rfl, hcode⟩, bind_of_ok _ hcall⟩

theorem attemptFrom_succ_apply (error : Option HostError) {backoff : Binary64} {e : CommandEnd} {w : σ}
    (hbackoff : Pause.backoff (g.maxAttempts - left) = .ok backoff)
    (hrun : g.station.run (r.command g.timeLimit) d.world.world = (e, w)) :
    ∃ log, g.attemptFrom r (left + 1) error s d =
      match r.judge g.nesting (g.maxAttempts - left) backoff (seconds (g.station.now w)) e.output? with
      | .error f => (.error (.fault f), ⟨{ d.world with world := w }, log⟩)
      | .ok (.settled x) => (.ok x, ⟨{ d.world with world := w }, log⟩)
      | .ok (.refused error) => (.error (.host error), ⟨{ d.world with world := w }, log⟩)
      | .ok (.unsettled error pause) => g.attemptFrom r left (some error) s
          ⟨{ d.world with world := if 0 < left then g.station.pause (.real pause) w else w }, log⟩ := by
  obtain ⟨log, hcall⟩ := call_apply g.station false (r.command g.timeLimit) s d
  rw [hrun] at hcall
  have hclock : g.clock s ⟨{ d.world with world := w }, log⟩ =
    (.ok (g.station.now w), ⟨{ d.world with world := w }, log⟩) := rfl
  rw [attemptFrom, hbackoff, bind_of_ok _ rfl, bind_of_ok _ hcall, bind_of_ok _ hclock, judge_unchecked]
  rcases r.judge g.nesting (g.maxAttempts - left) backoff (seconds (g.station.now w)) e.output?
    with f | x | error | ⟨error, pause⟩
  · exact ⟨log, rfl⟩
  · exact ⟨log, rfl⟩
  · exact ⟨log, rfl⟩
  · by_cases hleft : 0 < left
    · simp only [if_pos hleft]
      exact ⟨_, rfl⟩
    · simp only [if_neg hleft]
      exact ⟨_, rfl⟩

/-- Giving up asks who is logged in, unless the rate limit is used up. -/
theorem giveUp_concluded (last : CommandEnd) (hlost : ¬last.Final) (s : Scope) (d : Desk (Session (Recorded σ))) :
    ∃ events, (g.recorded.giveUp (r.complaint last) s d).2.world.world.events = d.world.world.events ++ events ∧
      g.Concluded r last events (g.recorded.giveUp (r.complaint last) s d).1 := by
  unfold giveUp
  by_cases hkind : (r.complaint last).kind = .rateLimit
  · simp only [hkind, ne_eq, not_true_eq_false, if_false]
    exact ⟨[], (List.append_nil _).symm, .throttled hlost hkind⟩
  · simp only [ne_eq, hkind, not_false_eq_true, if_true]
    have hrun : g.recorded.station.run g.loginCommand d.world.world = (_, _) := rfl
    obtain ⟨log, ⟨hlogin, hcheck⟩ | ⟨hlogin, hcheck⟩⟩ := checkAuthentication_apply (s := s) hrun
    · rw [bind_of_ok _ hcheck]
      exact ⟨_, rfl, .loggedIn hlost hkind hlogin⟩
    · rw [bind_of_error _ hcheck]
      exact ⟨_, rfl, .loggedOut hlost hkind hlogin⟩

/-! ## All attempts -/

/-- What attempts ask of the station: one command after another with pauses between them, and what follows. -/
def attempts (g : Gateway σ) (r : Request) (tries : List (CommandEnd × Binary64)) (last : CommandEnd)
    (afterwards : List StationEvent) : List StationEvent :=
  (tries.flatMap fun t => [.ran (r.command g.timeLimit) t.1, .paused (.real t.2)]) ++
    .ran (r.command g.timeLimit) last :: afterwards

/-- What came of a request that had one more attempt than it had some left: those before the last one were lost, and
the last one concludes it, unless the pause that it asks for cannot be read. -/
def Retried (g : Gateway σ) (r : Request) (left : Nat) (events : List StationEvent)
    (result : Except Failure Exchange) : Prop :=
  ∃ tries last afterwards, events = g.attempts r tries last afterwards ∧ (∀ t ∈ tries, ¬t.1.Final) ∧
    tries.length ≤ left ∧
    ((g.Concluded r last afterwards result ∧ (¬last.Final → tries.length = left)) ∨
      ∃ x, last.reply? = some x ∧ ¬x.PlainDigits)

theorem Retried.of_last {last : CommandEnd} {afterwards : List StationEvent} {result : Except Failure Exchange}
    (hconcluded : g.Concluded r last afterwards result) (hlast : last.Final ∨ left = 0) :
    g.Retried r left (.ran (r.command g.timeLimit) last :: afterwards) result := by
  refine ⟨[], last, afterwards, rfl, by simp, Nat.zero_le _, .inl ⟨hconcluded, fun hlost => ?_⟩⟩
  rcases hlast with hfinal | rfl
  · exact absurd hfinal hlost
  · rfl

theorem Retried.cons {e : CommandEnd} {events : List StationEvent} {result : Except Failure Exchange}
    (h : g.Retried r left events result) (hlost : ¬e.Final) (pause : Binary64) :
    g.Retried r (left + 1) (.ran (r.command g.timeLimit) e :: .paused (.real pause) :: events) result := by
  obtain ⟨tries, last, afterwards, rfl, htries, hlength, hend⟩ := h
  refine ⟨(e, pause) :: tries, last, afterwards, rfl, ?_, by simpa using hlength, ?_⟩
  · intro t ht
    rcases List.mem_cons.mp ht with rfl | ht
    · exact hlost
    · exact htries t ht
  · refine hend.imp_left fun ⟨hconcluded, hused⟩ => ⟨hconcluded, fun hlast => ?_⟩
    simpa using hused hlast

/-- By induction on the attempts that are left: each one is the last, or lost and followed by a pause. -/
theorem attemptFrom_retried (g : Gateway σ) (r : Request) (hmost : g.maxAttempts ≤ 1024) (left : Nat)
    (hleft : (left + 1 : Int) ≤ g.maxAttempts) (error : Option HostError) (s : Scope)
    (d : Desk (Session (Recorded σ))) :
    ∃ events, (g.recorded.attemptFrom r (left + 1) error s d).2.world.world.events = d.world.world.events ++ events ∧
      g.Retried r left events (g.recorded.attemptFrom r (left + 1) error s d).1 := by
  induction left using Nat.strongRecOn generalizing error d with
  | ind left ih =>
    have hfirst : 1 ≤ g.recorded.maxAttempts - left := by
      change 1 ≤ g.maxAttempts - left
      omega
    have hrange : g.recorded.maxAttempts - left ≤ 1024 := by
      change g.maxAttempts - left ≤ 1024
      omega
    rcases hended : g.station.run (r.command g.timeLimit) d.world.world.world with ⟨e, w⟩
    have hrun : g.recorded.station.run (r.command g.recorded.timeLimit) d.world.world = _ :=
      Station.recorded_run hended
    obtain ⟨log, hstep⟩ := attemptFrom_succ_apply (s := s) error (Pause.backoff_of_le hfirst hrange) hrun
    rw [hstep]
    generalize hverdict : r.judge _ _ _ _ e.output? = verdict
    have hjudged : r.Judged g.nesting e verdict := hverdict ▸ r.judge_judged g.nesting e hfirst hrange _ _
    cases hjudged with
    | settled hreply hx =>
      exact ⟨_, rfl, .of_last (.settled hreply hx) (.inl ⟨_, hreply, .inl hx⟩)⟩
    | refused hreply hfinal hx herror =>
      exact ⟨_, rfl, .of_last (.refused hreply hfinal hx herror) (.inl ⟨_, hreply, hfinal⟩)⟩
    | unexplained hreply hfinal hx hbody =>
      have hlimit := Refusal.explanation_fault hbody
      exact ⟨_, rfl, .of_last (.unexplained hreply hfinal hx hbody hlimit) (.inl ⟨_, hreply, hfinal⟩)⟩
    | unreadable hreply hornate =>
      exact ⟨_, rfl, [], e, [], rfl, by simp, Nat.zero_le _, .inr ⟨_, hreply, hornate⟩⟩
    | unsettled hlost pause =>
      rcases left with _ | left
      · obtain ⟨events, hevents, hconcluded⟩ := giveUp_concluded (g := g) (r := r) e hlost s
          ⟨{ d.world with world := ⟨w, d.world.world.events ++ [.ran (r.command g.timeLimit) e]⟩ }, log⟩
        refine ⟨.ran (r.command g.timeLimit) e :: events, ?_, .of_last hconcluded (.inr rfl)⟩
        refine hevents.trans ?_
        rw [List.append_assoc, List.singleton_append]
      · obtain ⟨events, hevents, hretried⟩ := ih left (by omega) (by omega) (some (r.complaint e))
          ⟨{ d.world with world := ⟨g.station.pause (.real pause) w,
              d.world.world.events ++ [.ran (r.command g.timeLimit) e] ++ [.paused (.real pause)]⟩ }, log⟩
        refine ⟨_, ?_, hretried.cons hlost pause⟩
        refine hevents.trans ?_
        rw [List.append_assoc, List.append_assoc, List.singleton_append, List.singleton_append]

/-- **Retries.** Where pauses are written in ASCII digits, a request with one to 1024 attempts asks the station for one
command over and over, up to the first attempt that is final or to the last one there is, with exactly one pause
between any two attempts. How it ends is decided by the last attempt alone: it breaks off exactly if the last reply is a
refusal whose body cannot be read. -/
theorem request_retries (g : Gateway σ) (r : Request) (hfirst : 1 ≤ g.maxAttempts) (hmost : g.maxAttempts ≤ 1024)
    (s : Scope) (d : Desk (Session σ))
    (hdigits : ∀ e x, .ran (r.command g.timeLimit) e ∈ g.trace r s d → e.reply? = some x → x.PlainDigits) :
    ∃ tries last afterwards, g.trace r s d = g.attempts r tries last afterwards ∧ (∀ t ∈ tries, ¬t.1.Final) ∧
      (tries.length + 1 : Int) ≤ g.maxAttempts ∧ (¬last.Final → (tries.length + 1 : Int) = g.maxAttempts) ∧
      g.Concluded r last afterwards (g.request r s d).1 := by
  obtain ⟨left, hleft⟩ : ∃ left : Nat, g.maxAttempts.toNat = left + 1 := Nat.exists_eq_add_of_le' (by omega)
  have hrequest : g.recorded.request r = g.recorded.attemptFrom r (left + 1) none := by
    change g.recorded.attemptFrom r g.maxAttempts.toNat none = _
    rw [hleft]
  obtain ⟨events, hevents, htold⟩ := attemptFrom_retried g r hmost left (by omega) none s
    ⟨⟨⟨d.world.world, []⟩, d.world.cache⟩, d.log⟩
  rw [← hrequest] at hevents htold
  rw [request_recorded] at htold
  have htrace : g.trace r s d = events := hevents.trans (List.nil_append _)
  obtain ⟨tries, last, afterwards, rfl, hlost, hlength, ⟨hconcluded, hused⟩ | ⟨x, hreply, hornate⟩⟩ := htold
  · refine ⟨tries, last, afterwards, htrace, hlost, by omega, fun hlast => ?_, hconcluded⟩
    have hall := hused hlast
    omega
  · -- the last attempt is part of the trace, so its digits are plain
    exact absurd (hdigits last x (by simp [htrace, attempts]) hreply) hornate

/-- A station whose first command takes too long and whose second one meets the rate limit. -/
def flakyStation : Station Nat where
  run _ n :=
    (match n with
      | 0 => .timedOut
      | 1 => .exited 1 "HTTP/2.0 403 Forbidden\nRetry-After: 5\n\n" ""
      | _ => .exited 0 "HTTP/2.0 204 No Content\n\n" "",
    n + 1)
  pause _ n := n
  now _ := default

def flakyGateway : Gateway Nat :=
  { station := flakyStation, owner := "o", name := "r" }

def removalRequest : Request :=
  { method := .delete, path := "/repos/o/r/actions/runs/1" }

/-- The end of a command that was run. -/
def ended? : StationEvent → Option CommandEnd
  | .ran _ e => some e
  | .paused _ => none

/-- The third attempt is the first one that is final. -/
theorem request_retries_flaky :
    (flakyGateway.request removalRequest {} ⟨⟨0, []⟩, #[]⟩).1.toOption = some ⟨204, [], ""⟩ ∧
      (flakyGateway.trace removalRequest {} ⟨⟨0, []⟩, #[]⟩).map ended? =
        [some .timedOut, none, some (.exited 1 "HTTP/2.0 403 Forbidden\nRetry-After: 5\n\n" ""), none,
          some (.exited 0 "HTTP/2.0 204 No Content\n\n" "")] ∧
      ∃ tries last afterwards, flakyGateway.trace removalRequest {} ⟨⟨0, []⟩, #[]⟩ =
          flakyGateway.attempts removalRequest tries last afterwards ∧
        (∀ t ∈ tries, ¬t.1.Final) ∧
        flakyGateway.Concluded removalRequest last afterwards
          (flakyGateway.request removalRequest {} ⟨⟨0, []⟩, #[]⟩).1 := by
  have hends : (flakyGateway.trace removalRequest {} ⟨⟨0, []⟩, #[]⟩).map ended? =
      [some .timedOut, none, some (.exited 1 "HTTP/2.0 403 Forbidden\nRetry-After: 5\n\n" ""), none,
        some (.exited 0 "HTTP/2.0 204 No Content\n\n" "")] := by
    decide +kernel
  have hdigits : ∀ e x, .ran (removalRequest.command flakyGateway.timeLimit) e ∈
      flakyGateway.trace removalRequest {} ⟨⟨0, []⟩, #[]⟩ → e.reply? = some x → x.PlainDigits := by
    intro e x he hreply
    have hended := List.mem_map_of_mem (f := ended?) he
    rw [hends] at hended
    simp only [ended?, List.mem_cons, Option.some.injEq, reduceCtorEq, List.not_mem_nil, or_false, false_or] at hended
    rcases hended with rfl | rfl | rfl
    · cases hreply
    · have hlimited : CommandEnd.reply? (.exited 1 "HTTP/2.0 403 Forbidden\nRetry-After: 5\n\n" "") =
          some ⟨403, [("retry-after", "5")], ""⟩ := by
        decide +kernel
      obtain rfl := Option.some.inj (hlimited.symm.trans hreply)
      have hpause : Pause.digits? [("retry-after", "5")] "retry-after" = some ['5'] := by decide
      have hreset : Pause.digits? [("retry-after", "5")] "x-ratelimit-reset" = none := by decide
      simp [Exchange.PlainDigits, hpause, hreset]
    · have hdone : CommandEnd.reply? (.exited 0 "HTTP/2.0 204 No Content\n\n" "") = some ⟨204, [], ""⟩ := by
        decide +kernel
      obtain rfl := Option.some.inj (hdone.symm.trans hreply)
      simp [Exchange.PlainDigits, Pause.digits?, Headers.value?]
  obtain ⟨tries, last, afterwards, htrace, hlost, -, -, hconcluded⟩ :=
    request_retries flakyGateway removalRequest (by decide) (by decide) {} ⟨⟨0, []⟩, #[]⟩ hdigits
  exact ⟨by decide +kernel, hends, tries, last, afterwards, htrace, hlost, hconcluded⟩

/-! ## A refusal that is not understood -/

/-- What is printed of a reply with some status and a long row of digits for its body. -/
def digitPrint (code : Text.Decimal) : String :=
  String.ofList ((Exchange.bareReply code).text ++ Json.ones Text.digitLimit)

theorem read_digitPrint {code : Text.Decimal} (hcode : code.digits.length ≤ Text.digitLimit) :
    Exchange.read (digitPrint code) = .ok ⟨code.value, [], String.ofList (Json.ones Text.digitLimit)⟩ := by
  have hplain : ∀ c ∈ Json.ones Text.digitLimit, c = '1' := fun c hc => List.eq_of_mem_replicate hc
  have hunified : Text.unifyLineEnds (Json.ones Text.digitLimit) = Json.ones Text.digitLimit := by
    have hreturn : '\r' ∉ Json.ones Text.digitLimit := fun hmem => absurd (hplain _ hmem) (by decide)
    have happend := Text.unifyLineEnds_append hreturn []
    rwa [List.append_nil, Text.unifyLineEnds, List.append_nil] at happend
  have hfields : Text.fields '\n' (Json.ones Text.digitLimit) = [Json.ones Text.digitLimit] :=
    Text.fields_of_not_mem fun hmem => absurd (hplain _ hmem) (by decide)
  have hbody : ∀ line ∈ Text.fields '\n' (Text.unifyLineEnds (Json.ones Text.digitLimit)),
      ¬"HTTP/".toList <+: line := by
    intro line hline hstart
    rw [hunified, hfields, List.mem_singleton] at hline
    obtain rfl := hline
    exact absurd (hplain 'H' (hstart.subset (by simp))) (by decide)
  have hread := Exchange.read_eq [] (Exchange.bareReply code) hbody
  have htext : (Exchange.bareReply code).code.text = code.text := rfl
  rw [htext, code.integer?_text hcode] at hread
  refine hread.trans ?_
  rw [hunified]
  rfl

/-- The body explains nothing, for it cannot be read. -/
theorem explanation_ones (nesting : Nat) :
    Refusal.explanation nesting (String.ofList (Json.ones Text.digitLimit)) = .error .numeralTooLong := by
  have hunbroken : Text.Unbroken (Json.ones Text.digitLimit) := by
    intro c hc
    rw [List.eq_of_mem_replicate hc]
    decide
  have htrim : Text.trim (String.ofList (Json.ones Text.digitLimit)) = String.ofList (Json.ones Text.digitLimit) := by
    rw [Text.trim, String.toList_ofList, hunbroken.trimChars]
  have hempty : (String.ofList (Json.ones Text.digitLimit)).isEmpty = false := by
    rw [Json.ones, List.replicate_succ]
    simp
  rw [Refusal.explanation, htrim, hempty, Json.read_ones (Nat.le_refl _)]
  rfl

/-- What is printed so for something that the server does not have. -/
def notFoundPrint : String :=
  digitPrint Exchange.notFoundCode

/-- A station whose commands all print that. -/
def notFoundStation : Station Unit where
  run _ _ := (.exited 1 notFoundPrint "", ())
  pause _ _ := ()
  now _ := default

def notFoundGateway : Gateway Unit :=
  { station := notFoundStation, owner := "o", name := "r" }

theorem judge_notFound (r : Request) (nesting : Nat) (attempt : Int) (backoff : Binary64) (now : Number) :
    r.judge nesting attempt backoff now (CommandEnd.output? (.exited 1 notFoundPrint "")) =
      .error .numeralTooLong := by
  rw [CommandEnd.output?, Request.judge, Option.map_some, notFoundPrint, read_digitPrint (by decide)]
  simp only [Request.judgeReply]
  rw [if_neg (by decide), if_neg (by decide), if_neg (by decide), Refusal.error, explanation_ones]
  rfl

/-- What the server does not have is not reported so, because of what stands in the reply. -/
theorem refusal_breaks_off :
    CommandEnd.reply? (.exited 1 notFoundPrint "") =
        some ⟨404, [], String.ofList (Json.ones Text.digitLimit)⟩ ∧
      (notFoundGateway.request removalRequest {} ⟨⟨(), []⟩, #[]⟩).1 = .error (.fault .numeralTooLong) := by
  constructor
  · change (Option.map Exchange.read (some notFoundPrint)).bind Except.toOption = _
    rw [Option.map_some, notFoundPrint, read_digitPrint (by decide)]
    rfl
  · have hrun : notFoundGateway.station.run (removalRequest.command notFoundGateway.timeLimit) () =
        (.exited 1 notFoundPrint "", ()) := rfl
    have hfirst : Pause.backoff (notFoundGateway.maxAttempts - (2 : Nat)) = .ok _ :=
      Pause.backoff_of_le (by decide) (by decide)
    obtain ⟨log, hstep⟩ := attemptFrom_succ_apply (s := {}) (d := ⟨⟨(), []⟩, #[]⟩) none hfirst hrun
    rw [judge_notFound] at hstep
    exact congrArg Prod.fst hstep

end Gateway

end RunSteward
