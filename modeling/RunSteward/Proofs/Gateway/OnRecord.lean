import RunSteward.Command.Script
import RunSteward.Gateway.Writes
import RunSteward.Proofs.Gateway.Cache
import RunSteward.Proofs.Gateway.Trace

/-!
# Reads and writes on record

Reads and writes at a recorded station end as at the station itself. A read of a pull request sends nothing but
requests to read (`pullRequest_recorded`), and what was asked for a write tells whether the write was accepted
(`sendOnly_recorded`).
-/

namespace RunSteward

open Act

variable {σ τ α β : Type}

/-! ## Recording changes nothing -/

section Mirrors

variable {Same : σ → τ → Prop}

theorem orRefuse_mirrors (r : Except HostError α) :
    Alike (Desk.Mirrors Same) (orRefuse r : Act σ α) (orRefuse r : Act τ α) := by
  cases r with
  | error e => exact alike_fail _
  | ok a => exact alike_pure a

theorem Session.remembered_mirrors (path : String) :
    Alike (Desk.Mirrors (Session.Mirrors Same)) (Session.remembered path) (Session.remembered path) :=
  outside_mirrors fun _ _ hsame => ⟨congrArg (ReplyCache.reply? · path) hsame.2, hsame⟩

theorem Session.remember_mirrors (path : String) (r : TaggedReply) :
    Alike (Desk.Mirrors (Session.Mirrors Same)) (Session.remember path r) (Session.remember path r) :=
  outside_mirrors fun _ _ hsame => ⟨rfl, hsame.1, congrArg (ReplyCache.remember · path r) hsame.2⟩

namespace Gateway

theorem takeFresh_mirrors (g : Gateway σ) (st' : Station τ) (path : String) (reply : Exchange) :
    Alike (Desk.Mirrors (Session.Mirrors Same)) (g.takeFresh path reply) ((g.on st').takeFresh path reply) := by
  unfold takeFresh
  refine Alike.bind (alike_orHalt _) fun payload => ?_
  cases payload with
  | none => exact alike_fail _
  | some payload =>
    refine Alike.bind (alike_orHalt _) fun next => ?_
    split
    · exact Alike.bind (Session.remember_mirrors _ _) fun _ => alike_pure _
    · exact Alike.bind (alike_pure _) fun _ => alike_pure _

theorem takeReply_mirrors (g : Gateway σ) (st' : Station τ) (path : String) (known : Option TaggedReply)
    (reply : Exchange) :
    Alike (Desk.Mirrors (Session.Mirrors Same)) (g.takeReply path known reply)
      ((g.on st').takeReply path known reply) := by
  unfold takeReply
  by_cases hstatus : reply.status = 304
  · rw [if_pos hstatus, if_pos hstatus]
    cases known with
    | none => exact alike_fail _
    | some k => exact alike_pure _
  · rw [if_neg hstatus, if_neg hstatus]
    exact takeFresh_mirrors g st' path reply

theorem getJson_eq (g : Gateway σ) (path : String) :
    g.getJson path = Session.remembered path >>= fun known =>
      g.request (Request.reading path (known.map TaggedReply.etag)) >>= g.takeReply path known :=
  rfl

variable {g : Gateway σ} {st' : Station τ} (h : g.station.Mirrors st' Same)
include h

theorem getJson_mirrors (path : String) :
    Alike (Desk.Mirrors (Session.Mirrors Same)) (g.getJson path) ((g.on st').getJson path) := by
  rw [getJson_eq, getJson_eq]
  refine Alike.bind (Session.remembered_mirrors path) fun known => ?_
  exact Alike.bind (request_mirrors h _) fun reply => takeReply_mirrors g st' path known reply

theorem pullRequest_mirrors (number : Int) :
    Alike (Desk.Mirrors (Session.Mirrors Same)) (g.pullRequest number) ((g.on st').pullRequest number) := by
  unfold pullRequest
  refine Alike.bind (Alike.attempt (getJson_mirrors h _)) fun answer => ?_
  rcases answer with e | ⟨payload, next⟩
  · by_cases hmissing : e.kind = .notFound
    · simp only [if_pos hmissing]
      exact Alike.bind (record_mirrors _ _ _) fun _ => alike_pure _
    · simp only [if_neg hmissing]
      exact alike_fail _
  · refine Alike.bind (orRefuse_mirrors _) fun pr => ?_
    exact Alike.bind (record_mirrors _ _ _) fun _ => alike_pure _

theorem send_mirrors (r : Request) (event : String) (fields : LogFields) :
    Alike (Desk.Mirrors (Session.Mirrors Same)) (g.send r event fields) ((g.on st').send r event fields) := by
  unfold send
  refine Alike.bind (Alike.attempt (request_mirrors h r)) fun answer => ?_
  cases answer with
  | error e => exact Alike.bind (record_mirrors _ _ _) fun _ => alike_fail _
  | ok reply => exact Alike.bind (record_mirrors _ _ _) fun _ => alike_orHalt _

theorem sendOnly_mirrors (r : Request) (event : String) (fields : LogFields) :
    Alike (Desk.Mirrors (Session.Mirrors Same)) (g.sendOnly r event fields)
      ((g.on st').sendOnly r event fields) :=
  Alike.bind (send_mirrors h r event fields) fun _ => alike_pure _

end Gateway

end Mirrors

/-! ## What is asked of the station -/

/-- A desk at a recorded station, from which nothing was asked yet. -/
def Desk.onRecord (d : Desk (Session σ)) : Desk (Session (Recorded σ)) :=
  ⟨⟨⟨d.world.world, []⟩, d.world.cache⟩, d.log⟩

/-- A desk at a recorded station beside one at the station itself. -/
abbrev Desk.Recorded (d : Desk (Session σ)) (e : Desk (Session (RunSteward.Recorded σ))) : Prop :=
  Desk.Mirrors (Session.Mirrors fun v w => v = w.world) d e

theorem Act.Alike.follow {R : Desk σ → Desk τ → Prop} {x : Act σ α} {y : Act τ α} (h : Alike R x y) {s : Scope}
    {d d' : Desk σ} {e : Desk τ} {r : Except Failure α} (hR : R d e) (hx : x s d = (r, d')) :
    ∃ e', y s e = (r, e') ∧ R d' e' := by
  obtain ⟨hresult, hafter⟩ := h.same (s := s) hR
  rw [hx] at hresult hafter
  exact ⟨(y s e).2, Prod.ext hresult.symm rfl, hafter⟩

/-- An act that runs no commands but those in `P`. -/
def Asks (P : Command → Prop) (x : Act (Session (Recorded σ)) α) : Prop :=
  ∀ s d, ∃ events, (x s d).2.world.world.events = d.world.world.events ++ events ∧
    ∀ c e, .ran c e ∈ events → P c

section Asks

variable {P : Command → Prop} {x : Act (Session (Recorded σ)) α}

theorem asks_of_still (h : ∀ s d, (x s d).2.world.world.events = d.world.world.events) : Asks P x :=
  fun s d => ⟨[], by rw [h, List.append_nil], by simp⟩

theorem Asks.bind {f : α → Act (Session (Recorded σ)) β} (hx : Asks P x) (hf : ∀ a, Asks P (f a)) :
    Asks P (x >>= f) := by
  intro s d
  obtain ⟨before, hbefore, hP⟩ := hx s d
  rcases hend : x s d with ⟨failure | a, d'⟩ <;> rw [hend] at hbefore
  · exact ⟨before, by rw [bind_of_error _ hend]; exact hbefore, hP⟩
  · obtain ⟨after, hafter, hP'⟩ := hf a s d'
    refine ⟨before ++ after, ?_, fun c e hmem => ?_⟩
    · rw [bind_of_ok _ hend, hafter, hbefore, List.append_assoc]
    · rcases List.mem_append.mp hmem with hmem | hmem
      · exact hP c e hmem
      · exact hP' c e hmem

theorem Asks.attempt (hx : Asks P x) : Asks P (attempt x) := by
  intro s d
  obtain ⟨events, hevents, hP⟩ := hx s d
  refine ⟨events, ?_, hP⟩
  rcases hend : x s d with ⟨(e | f) | a, d'⟩ <;> rw [hend] at hevents
  · rw [attempt_of_refusal hend]
    exact hevents
  · rw [attempt_of_fault hend]
    exact hevents
  · rw [attempt_of_ok hend]
    exact hevents

end Asks

/-- The method of the request that a command sends. -/
def Command.method? (c : Command) : Option String :=
  Script.after? "--method" c.argv

namespace Gateway

variable {g : Gateway σ}

theorem method?_command (r : Request) (timeLimit : Number) : (r.command timeLimit).method? = some r.method.name := by
  simp [Command.method?, Request.command, Request.argv, Script.after?]

theorem method?_loginCommand (g : Gateway σ) : g.loginCommand.method? = none := by
  simp [Command.method?, loginCommand, Script.after?]

/-- A command that changes nothing: it reads, or asks who is logged in. -/
def Looks (c : Command) : Prop :=
  c.method? = none ∨ c.method? = some Method.get.name

theorem takeReply_still (g : Gateway σ) (path : String) (known : Option TaggedReply) (reply : Exchange) (s : Scope)
    (d : Desk (Session (Recorded σ))) :
    (g.recorded.takeReply path known reply s d).2.world.world.events = d.world.world.events := by
  unfold takeReply
  split
  · cases known <;> rfl
  · rw [takeFresh_apply]

theorem getJson_asks (g : Gateway σ) (path : String) : Asks Looks (g.recorded.getJson path) := by
  rw [getJson_eq]
  refine Asks.bind (asks_of_still fun _ _ => rfl) fun known => Asks.bind (fun s d => ?_) fun reply => ?_
  · obtain ⟨events, hevents, htold⟩ := request_told g (Request.reading path (known.map TaggedReply.etag)) s d
    refine ⟨events, hevents, fun c e hmem => ?_⟩
    rcases htold.commands c e hmem with rfl | rfl
    · exact .inr (method?_command _ _)
    · exact .inl (method?_loginCommand g)
  · exact asks_of_still (takeReply_still g path known reply)

theorem pullRequest_asks (g : Gateway σ) (number : Int) : Asks Looks (g.recorded.pullRequest number) := by
  unfold pullRequest
  refine Asks.bind (getJson_asks g _).attempt fun answer => asks_of_still fun s d => ?_
  rcases answer with e | ⟨payload, next⟩
  · by_cases hmissing : e.kind = .notFound
    · simp only [if_pos hmissing]
      rfl
    · simp only [if_neg hmissing]
      rfl
  · rcases hread : Payload.object "pull request" PullRequest.read payload with e | pr
    · simp only [hread]
      rfl
    · simp only [hread]
      rfl

theorem pullRequest_recorded {number : Int} {s : Scope} {d d' : Desk (Session σ)} {D : Desk (Session (Recorded σ))}
    {r : Except Failure (Option PullRequest)} (hD : d.Recorded D) (hread : g.pullRequest number s d = (r, d')) :
    ∃ D' events, g.recorded.pullRequest number s D = (r, D') ∧ d'.Recorded D' ∧
      D'.world.world.events = D.world.world.events ++ events ∧ ∀ c e, .ran c e ∈ events → Looks c := by
  obtain ⟨D', hread', hD'⟩ := (pullRequest_mirrors g.station.recorded_mirrors number).follow hD hread
  obtain ⟨events, hevents, hlooks⟩ := pullRequest_asks g number s D
  rw [show g.recorded.pullRequest number s D = _ from hread'] at hevents
  exact ⟨D', events, hread', hD', hevents, hlooks⟩

/-- The payload of a reply to a write. A body that is no JSON is as good as none, but one beyond the limits is not. -/
def echo (g : Gateway σ) (x : Exchange) : Except Failure (Option Json) :=
  (Json.read g.nesting x.body).mapError Failure.fault

/-- A write ends as its request does, provided that its reply can be read, and only the log tells of it. -/
theorem send_apply (g : Gateway σ) (r : Request) (event : String) (fields : LogFields) (s : Scope)
    (d : Desk (Session σ)) :
    ∃ log, g.send r event fields s d = ((g.request r s d).1 >>= g.echo, { (g.request r s d).2 with log := log }) := by
  unfold send
  rcases hrequest : g.request r s d with ⟨(e | f) | x, d'⟩
  · exact ⟨_, (bind_of_ok _ (attempt_of_refusal hrequest)).trans rfl⟩
  · exact ⟨d'.log, bind_of_error _ (attempt_of_fault hrequest)⟩
  · obtain ⟨log, hnote⟩ := notes_record (σ := Session σ) .info logger (LogEvent.message event fields) s d'
    refine ⟨log, (bind_of_ok _ (attempt_of_ok hrequest)).trans ((bind_of_ok _ hnote).trans ?_)⟩
    change orHalt (Json.read g.nesting x.body) s _ = (g.echo x, _)
    rw [echo]
    cases Json.read g.nesting x.body <;> rfl

theorem sendOnly_apply (g : Gateway σ) (r : Request) (event : String) (fields : LogFields) (s : Scope)
    (d : Desk (Session σ)) :
    ∃ log, g.sendOnly r event fields s d =
      (((g.request r s d).1 >>= g.echo).map fun _ => (), { (g.request r s d).2 with log := log }) := by
  obtain ⟨log, hsend⟩ := send_apply g r event fields s d
  refine ⟨log, ?_⟩
  rcases hecho : (g.request r s d).1 >>= g.echo with f | payload <;> rw [hecho] at hsend
  · exact bind_of_error _ hsend
  · exact bind_of_ok _ hsend

/-- A write that ends with a result was accepted, and one that the host refuses was not. -/
theorem sendOnly_recorded {r : Request} {event : String} {fields : LogFields} {s : Scope} {d d' : Desk (Session σ)}
    {D : Desk (Session (Recorded σ))} {result : Except Failure Unit} (hD : d.Recorded D)
    (hsend : g.sendOnly r event fields s d = (result, d')) :
    ∃ D' events, g.recorded.sendOnly r event fields s D = (result, D') ∧ d'.Recorded D' ∧
      D'.world.world.events = D.world.world.events ++ events ∧
      (∀ c e, .ran c e ∈ events → c = r.command g.timeLimit ∨ c = g.loginCommand) ∧
      (result = .ok () → ∃ e, .ran (r.command g.timeLimit) e ∈ events ∧ e.Accepted) ∧
      ∀ error, result = .error (.host error) → ∀ e, .ran (r.command g.timeLimit) e ∈ events → ¬e.Accepted := by
  obtain ⟨D', hsend', hD'⟩ := (sendOnly_mirrors g.station.recorded_mirrors r event fields).follow hD hsend
  change g.recorded.sendOnly r event fields s D = _ at hsend'
  obtain ⟨events, hevents, htold⟩ := request_told g r s D
  obtain ⟨log, happly⟩ := sendOnly_apply g.recorded r event fields s D
  rw [hsend'] at happly
  obtain ⟨rfl, rfl⟩ := Prod.mk.inj happly
  refine ⟨_, events, hsend', hD', hevents, htold.commands, fun hok => ?_, ?_⟩
  · rcases hresult : (g.recorded.request r s D).1 with failure | x
    · rw [hresult] at hok
      cases hok
    · obtain ⟨e, hmem, hreply, hsucceeded⟩ := (htold.accepted x).mp hresult
      exact ⟨e, hmem, x, hreply, hsucceeded⟩
  · rintro error hrefused e hmem ⟨x, hreply, hsucceeded⟩
    rw [(htold.accepted x).mpr ⟨e, hmem, hreply, hsucceeded⟩] at hrefused
    have hecho : ∀ r : Except Fault (Option Json), ((r.mapError Failure.fault).map fun _ => ()) ≠ .error (.host error) := by
      rintro (f | payload) <;> simp [Except.mapError, Except.map]
    exact hecho _ hrefused

end Gateway

end RunSteward
