import RunSteward.Gateway.Request
import RunSteward.Proofs.Act.Paired
import RunSteward.Proofs.Act.Result

/-!
# Servers with tags

At each moment a server has a resource to show at a path, with a body, a link and perhaps a tag. To a request that
names the tag it may answer that nothing has changed (`Exchange.Shows`). Two sessions with such a server are
compared, one of which names tags in its requests and one of which never does (`Station.Serves`): each request of
theirs fails alike, or shows the same resource to both (`request_paired`), whatever happens between the attempts.
-/

namespace RunSteward

variable {σ α β : Type}

/-! ## Servers -/

/-- What a server has to show at a path. -/
structure Resource where
  body : String
  link : Option String
  etag : Option String

/-- A request to read a path. It may name the tag of what is known already. -/
def Request.reading (path : String) (etag : Option String) : Request :=
  { method := .get, path, etag }

/-- A reply that shows a resource: all of it, or that the tag in the request is the one it still has. -/
inductive Exchange.Shows (R : Resource) (etag : Option String) (x : Exchange) : Prop where
  | whole (status : x.status = 200) (body : x.body = R.body) (link : x.headers.value? "link" = R.link)
      (tag : x.headers.value? "etag" = R.etag)
  | unchanged (status : x.status = 304) (tag : String) (named : etag = some tag) (current : R.etag = some tag)

/-- What a command has printed, if it came to its end. -/
def CommandEnd.output? : CommandEnd → Option String
  | .timedOut => none
  | .exited _ output _ => some output

/-- Two outputs to readers of one resource, the first of whom named a tag: both are the same and no success, or
both show the resource. -/
inductive Answered (R : Resource) (etag : Option String) : Option String → Option String → Prop where
  | failed (raw : Option String) (h : ∀ x, raw.map Exchange.read = some (.ok x) → x.isSuccess = false) :
      Answered R etag raw raw
  | shown {raw raw' : Option String} {x y : Exchange} (hx : raw.map Exchange.read = some (.ok x))
      (hy : raw'.map Exchange.read = some (.ok y)) (hshows : x.Shows R etag) (hplain : y.Shows R none) :
      Answered R etag raw raw'

/-- A station with a server that knows tags. The relation `Same` tells which worlds are the same to the server:
there it has the same resources, and its answers differ at most by what the tag in a request makes of them. A tag
that a path ever has belongs to one body and one link. -/
structure Station.Serves (st : Station σ) (timeLimit : Number) (resource : String → σ → Resource)
    (Same : σ → σ → Prop) : Prop where
  read : ∀ path etag w w', Same w w' →
    Same (st.run ((Request.reading path etag).command timeLimit) w).2
        (st.run ((Request.reading path none).command timeLimit) w').2 ∧
      Answered (resource path w) etag (st.run ((Request.reading path etag).command timeLimit) w).1.output?
        (st.run ((Request.reading path none).command timeLimit) w').1.output?
  login : ∀ c w w', c.argv = ["gh", "auth", "status"] → Same w w' →
    Same (st.run c w).2 (st.run c w').2 ∧ (st.run c w).1 = (st.run c w').1
  pause : ∀ n w w', Same w w' → Same (st.pause n w) (st.pause n w')
  now : ∀ w w', Same w w' → st.now w = st.now w'
  tagged : ∀ path w w' v v', Same w w' → Same v v' → ∀ tag, (resource path w).etag = some tag →
    (resource path v).etag = some tag →
      (resource path w).body = (resource path v).body ∧ (resource path w).link = (resource path v).link

/-! ## Judging outputs -/

namespace Request

variable {nesting : Nat} {attempt : Int} {backoff : Binary64} {now : Number} {raw : Option String} {x : Exchange}

/-- The tag in a request does not matter to what its output comes to. -/
theorem judge_reading (path : String) (etag : Option String) (nesting : Nat) (attempt : Int) (backoff : Binary64)
    (now : Number) (raw : Option String) : (reading path etag).judge nesting attempt backoff now raw =
      (reading path none).judge nesting attempt backoff now raw :=
  rfl

theorem judge_of_success (r : Request) (hraw : raw.map Exchange.read = some (.ok x)) (hx : x.isSuccess = true) :
    r.judge nesting attempt backoff now raw = .ok (.settled x) := by
  rw [judge, hraw]
  simp [judgeReply, hx]

theorem judge_of_failure {r : Request} (h : ∀ x, raw.map Exchange.read = some (.ok x) → x.isSuccess = false) :
    r.judge nesting attempt backoff now raw ≠ .ok (.settled x) := by
  intro hsettled
  unfold judge at hsettled
  rcases hraw : raw.map Exchange.read with _ | e | reply <;> rw [hraw] at hsettled
  · simp at hsettled
  · simp at hsettled
  · have hlost := h reply hraw
    simp only [judgeReply, hlost, Bool.false_eq_true, if_false] at hsettled
    split at hsettled
    · rcases hpause : Pause.rateLimit reply.headers attempt now with f | pause <;>
        simp [hpause, Except.map] at hsettled
    · split at hsettled
      · simp at hsettled
      · rcases herror : Refusal.error nesting r.method.name r.path reply.status reply.body with f | e <;>
          simp [herror, Except.map] at hsettled

end Request

theorem Exchange.Shows.success {R : Resource} {etag : Option String} {x : Exchange} (h : x.Shows R etag) :
    x.isSuccess = true := by
  cases h with
  | whole status => simp [isSuccess, status]
  | unchanged status => simp [isSuccess, status]

/-! ## Sessions side by side -/

namespace Gateway

open Act

variable {g : Gateway σ} {resource : String → σ → Resource} {Same : σ → σ → Prop} {c c' : ReplyCache}

/-- Two sessions whose worlds are the same to the server, each with what it remembers. -/
def Beside (Same : σ → σ → Prop) (c c' : ReplyCache) (d e : Desk (Session σ)) : Prop :=
  Same d.world.world e.world.world ∧ d.world.cache = c ∧ e.world.cache = c'

/-- Two replies that show what the server has at a path at some moment. -/
def BothShow (resource : String → σ → Resource) (Same : σ → σ → Prop) (path : String) (etag : Option String)
    (x y : Exchange) : Prop :=
  ∃ w w', Same w w' ∧ x.Shows (resource path w) etag ∧ y.Shows (resource path w) none

theorem orHalt_paired (r : Except Fault α) :
    Paired (Beside Same c c') (orHalt r : Act (Session σ) α) (orHalt r)
      (fun a b d e => r = .ok a ∧ a = b ∧ Beside Same c c' d e) (Beside Same c c') := by
  cases r with
  | error f => exact fun _ _ _ hbeside => .failure _ hbeside
  | ok a => exact paired_pure fun _ _ hbeside => ⟨rfl, rfl, hbeside⟩

theorem record_alike (level : LogLevel) (logger message : String) :
    Alike (Beside Same c c') (record level logger message) (record level logger message) :=
  fun _ _ _ h => .result ⟨rfl, h⟩

/-- A call ends as the station says, and only the log tells of a command that gave no output. -/
theorem call_apply (st : Station σ) (checked : Bool) (command : Command) (s : Scope) (d : Desk (Session σ)) :
    ∃ log, Session.outside (st.call checked command) s d =
      (.ok (Station.judge checked command (st.run command d.world.world).1),
        ⟨{ d.world with world := (st.run command d.world.world).2 }, log⟩) := by
  rcases hjudge : Station.judge checked command (st.run command d.world.world).1 with f | output
  · refine ⟨d.log.push ⟨.error, Station.logger, s, Station.failureNote f⟩, ?_⟩
    simp only [Session.outside, focus, Station.call]
    rw [bind_of_ok _ rfl]
    simp only [hjudge]
    rfl
  · refine ⟨d.log, ?_⟩
    simp only [Session.outside, focus, Station.call]
    rw [bind_of_ok _ rfl]
    simp only [hjudge]
    rfl

theorem judge_unchecked (command : Command) (e : CommandEnd) :
    (Station.judge false command e).toOption = e.output? := by
  cases e <;> rfl

variable (h : g.station.Serves g.timeLimit resource Same)
include h

theorem call_paired (path : String) (etag : Option String) :
    Paired (Beside Same c c')
      (Session.outside (g.station.call false ((Request.reading path etag).command g.timeLimit)))
      (Session.outside (g.station.call false ((Request.reading path none).command g.timeLimit)))
      (fun a b d e => (∃ w w', Same w w' ∧ Answered (resource path w) etag a.toOption b.toOption) ∧
        Beside Same c c' d e)
      (Beside Same c c') := by
  rintro s d e ⟨hsame, hc, hc'⟩
  obtain ⟨hafter, hanswered⟩ := h.read path etag _ _ hsame
  obtain ⟨log, hcall⟩ := call_apply g.station false ((Request.reading path etag).command g.timeLimit) s d
  obtain ⟨log', hcall'⟩ := call_apply g.station false ((Request.reading path none).command g.timeLimit) s e
  rw [hcall, hcall']
  refine .result ⟨⟨_, _, hsame, ?_⟩, hafter, hc, hc'⟩
  rw [judge_unchecked, judge_unchecked]
  exact hanswered

theorem clock_alike : Alike (Beside Same c c') g.clock g.clock := by
  rintro s d e ⟨hsame, hc, hc'⟩
  exact .result ⟨h.now _ _ hsame, hsame, hc, hc'⟩

theorem wait_alike (n : Number) :
    Alike (Beside Same c c') (Session.outside (g.station.wait n)) (Session.outside (g.station.wait n)) := by
  rintro s d e ⟨hsame, hc, hc'⟩
  exact .result ⟨rfl, h.pause n _ _ hsame, hc, hc'⟩

theorem checkAuthentication_alike : Alike (Beside Same c c') g.checkAuthentication g.checkAuthentication := by
  refine Alike.bind (g := _) ?_ fun answer => ?_
  · rintro s d e ⟨hsame, hc, hc'⟩
    obtain ⟨hafter, hend⟩ := h.login { argv := ["gh", "auth", "status"], timeLimit := some g.timeLimit } _ _ rfl hsame
    obtain ⟨log, hcall⟩ := call_apply g.station true
      { argv := ["gh", "auth", "status"], timeLimit := some g.timeLimit } s d
    obtain ⟨log', hcall'⟩ := call_apply g.station true
      { argv := ["gh", "auth", "status"], timeLimit := some g.timeLimit } s e
    rw [hcall, hcall', hend]
    exact .result ⟨rfl, hafter, hc, hc'⟩
  · split
    · exact alike_fail _
    · exact alike_pure _

theorem giveUp_paired {Q : Exchange → Exchange → Desk (Session σ) → Desk (Session σ) → Prop} (error : HostError) :
    Paired (Beside Same c c') (g.giveUp error) (g.giveUp error) Q (Beside Same c c') := by
  unfold giveUp
  split
  · refine Alike.then (checkAuthentication_alike h) (fun _ _ hbeside => hbeside) fun _ => ?_
    exact fun _ _ _ hbeside => .failure _ hbeside
  · exact fun _ _ _ hbeside => .failure _ hbeside

/-! ## Requests -/

theorem attemptFrom_paired (path : String) (etag : Option String) (left : Nat) (error : Option HostError) :
    Paired (Beside Same c c') (g.attemptFrom (Request.reading path etag) left error)
      (g.attemptFrom (Request.reading path none) left error)
      (fun x y d e => BothShow resource Same path etag x y ∧ Beside Same c c' d e) (Beside Same c c') := by
  induction left generalizing error with
  | zero =>
    cases error with
    | none => exact fun _ _ _ hbeside => .failure _ hbeside
    | some error => exact giveUp_paired h error
  | succ left ih =>
    rw [attemptFrom, attemptFrom]
    refine Paired.bind (orHalt_paired _) fun backoff backoff' => ?_
    rintro s d e ⟨-, rfl, hbeside⟩
    refine Paired.bind (call_paired h path etag) (fun a b => ?_) s d e hbeside
    rintro s d e ⟨⟨w, w', hsame, hanswered⟩, hbeside⟩
    refine Alike.then (clock_alike h) (fun _ _ hbeside => hbeside) (fun now => ?_) s d e hbeside
    generalize a.toOption = raw, b.toOption = raw' at hanswered ⊢
    cases hanswered with
    | shown hx hy hshows hplain =>
      rw [Request.judge_of_success _ hx hshows.success, Request.judge_of_success _ hy hplain.success]
      exact fun s d e hbeside => .result ⟨⟨w, w', hsame, hshows, hplain⟩, hbeside⟩
    | failed hlost =>
      rw [Request.judge_reading]
      refine Paired.bind (orHalt_paired _) fun verdict verdict' => ?_
      rintro s d e ⟨hverdict, rfl, hbeside⟩
      cases verdict with
      | settled reply => exact absurd hverdict (Request.judge_of_failure hlost)
      | refused error => exact .failure _ hbeside
      | unsettled error pause =>
        refine Alike.then (record_alike _ _ _) (fun _ _ hbeside => hbeside) (fun _ => ?_) s d e hbeside
        by_cases hleft : 0 < left
        · simp only [if_pos hleft]
          exact Alike.then (wait_alike h _) (fun _ _ hbeside => hbeside) fun _ => ih (some error)
        · simp only [if_neg hleft]
          exact ih (some error)

/-- **Requests show the same**: of two requests to read a path, one of which names a tag, either both fail alike or
both give replies that show the same resource. -/
theorem request_paired (path : String) (etag : Option String) :
    Paired (Beside Same c c') (g.request (Request.reading path etag)) (g.request (Request.reading path none))
      (fun x y d e => BothShow resource Same path etag x y ∧ Beside Same c c' d e) (Beside Same c c') :=
  attemptFrom_paired h path etag _ none

end Gateway

end RunSteward
