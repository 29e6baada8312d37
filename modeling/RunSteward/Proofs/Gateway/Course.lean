import RunSteward.Proofs.Gateway.Attempts

/-!
# The course of a request

The attempts of a request follow one another until one of them ends it or none is left (`Gateway.Course`), whatever
the number of attempts is and however they end. What is shown by induction on the course holds of every request, as
that it is refused for want of its resource exactly if an attempt was answered so (`Course.missing`).
-/

namespace RunSteward

open Act

variable {σ : Type}

/-! ## Missing resources -/

/-- An attempt that was answered by the news, in words that can be read, that the resource is not there, or not any
more. -/
def CommandEnd.Missing (e : CommandEnd) (nesting : Nat) : Prop :=
  ∃ x, e.reply? = some x ∧ (x.status = 404 ∨ x.status = 410) ∧ ∃ text, Refusal.explanation nesting x.body = .ok text

namespace Request

/-- What the verdict on an attempt has to do with a missing resource. -/
def Verdict.Misses (nesting : Nat) (e : CommandEnd) : Except Fault Verdict → Prop
  | .ok (.refused error) => error.kind = .notFound ↔ e.Missing nesting
  | .ok (.unsettled error _) => error.kind ≠ .notFound ∧ ¬e.Missing nesting
  | .ok (.settled _) | .error _ => ¬e.Missing nesting

theorem judge_misses (r : Request) (nesting : Nat) (attempt : Int) (b : Binary64) (now : Number) (e : CommandEnd) :
    Verdict.Misses nesting e (r.judge nesting attempt b now e.output?) := by
  have hsilent : e.reply? = none → ¬e.Missing nesting := by
    rintro hnone ⟨x, hreply, -⟩
    rw [hnone] at hreply
    cases hreply
  rw [judge]
  rcases hread : e.output?.map Exchange.read with _ | error | x
  · exact ⟨by simp, hsilent (by rw [CommandEnd.reply?, hread]; rfl)⟩
  · exact ⟨by simp, hsilent (by rw [CommandEnd.reply?, hread]; rfl)⟩
  have hreply : e.reply? = some x := by rw [CommandEnd.reply?, hread]; rfl
  have hmissing : e.Missing nesting ↔
      (x.status = 404 ∨ x.status = 410) ∧ ∃ text, Refusal.explanation nesting x.body = .ok text := by
    simp [CommandEnd.Missing, hreply]
  dsimp only
  rw [judgeReply]
  by_cases hsucceeded : x.Succeeded
  · rw [if_pos (Exchange.isSuccess_iff.mpr hsucceeded)]
    unfold Exchange.Succeeded at hsucceeded
    exact fun hgone => absurd (hmissing.mp hgone).1 (by omega)
  rw [if_neg (mt Exchange.isSuccess_iff.mp hsucceeded)]
  by_cases hthrottled : x.Throttled
  · rw [if_pos (Exchange.isRateLimited_iff.mpr hthrottled)]
    have hthere : ¬e.Missing nesting := by
      unfold Exchange.Throttled at hthrottled
      exact fun hgone => absurd (hmissing.mp hgone).1 (by omega)
    rcases Pause.rateLimit x.headers attempt now with f | pause
    · exact hthere
    · exact ⟨by simp, hthere⟩
  rw [if_neg (mt Exchange.isRateLimited_iff.mp hthrottled)]
  by_cases hserver : 500 ≤ x.status
  · rw [if_pos hserver]
    exact ⟨by simp, fun hgone => absurd (hmissing.mp hgone).1 (by omega)⟩
  · rw [if_neg hserver, Refusal.error]
    rcases htext : Refusal.explanation nesting x.body with f | text <;> rw [htext] at hmissing
    · exact mt hmissing.mp (by simp)
    · exact x.refusedAs_kindOf.notFound.trans (hmissing.trans (by simp)).symm

/-- The end that a verdict puts to a request; one that is unsettled has none yet. -/
def Verdict.end? : Except Fault Verdict → Option (Except Failure Exchange)
  | .error f => some (.error (.fault f))
  | .ok (.settled x) => some (.ok x)
  | .ok (.refused e) => some (.error (.host e))
  | .ok (.unsettled _ _) => none

end Request

namespace Gateway

variable {g : Gateway σ} {r : Request} {left : Nat} {error : Option HostError} {events : List StationEvent}
  {result : Except Failure Exchange}

/-- How a request goes on that has some attempts left, given the error of the attempt before: what it asks of the
station, and how it ends. -/
inductive Course (g : Gateway σ) (r : Request) :
    Nat → Option HostError → List StationEvent → Except Failure Exchange → Prop where
  | untried : Course g r 0 none [] (.error (.fault .noAttempt))
  | gaveUp {e e' : HostError} {events : List StationEvent} (hlogin : ∀ event ∈ events, ∃ c, event = .ran g.loginCommand c)
      (herror : e' = e ∨ e'.kind = .authentication) : Course g r 0 (some e) events (.error (.host e'))
  | overlong {left : Nat} {error : Option HostError} {f : Fault}
      (hbackoff : Pause.backoff (g.maxAttempts - left) = .error f) : Course g r (left + 1) error [] (.error (.fault f))
  | ended {left : Nat} {error : Option HostError} {b : Binary64} {t : Stamp} {e : CommandEnd}
      {result : Except Failure Exchange} (hbackoff : Pause.backoff (g.maxAttempts - left) = .ok b)
      (hverdict : Request.Verdict.end? (r.judge g.nesting (g.maxAttempts - left) b (seconds t) e.output?) =
        some result) :
      Course g r (left + 1) error [.ran (r.command g.timeLimit) e] result
  | lost {left : Nat} {error : Option HostError} {b pause : Binary64} {t : Stamp} {e : CommandEnd} {lost : HostError}
      {pauses events : List StationEvent} {result : Except Failure Exchange}
      (hbackoff : Pause.backoff (g.maxAttempts - left) = .ok b)
      (hverdict : r.judge g.nesting (g.maxAttempts - left) b (seconds t) e.output? = .ok (.unsettled lost pause))
      (hpauses : ∀ event ∈ pauses, ∃ n, event = .paused n) (hmore : Course g r left (some lost) events result) :
      Course g r (left + 1) error (.ran (r.command g.timeLimit) e :: (pauses ++ events)) result

theorem command_ne_login : r.command g.timeLimit ≠ g.loginCommand := by
  intro heq
  have hwords := congrArg (fun c => c.argv[1]?) heq
  simp [Request.command, Request.argv, loginCommand] at hwords

section Events

variable {e : CommandEnd} {P : CommandEnd → Prop}

/-- Of a request that was attempted once, an attempt is in `P` exactly if this one is. -/
theorem ran_last_iff : (∃ e', .ran (r.command g.timeLimit) e' ∈ [StationEvent.ran (r.command g.timeLimit) e] ∧ P e') ↔
    P e := by
  simp

/-- An attempt in `P` comes behind one that is not in `P`, and behind the pauses that follow it. -/
theorem ran_lost_iff {pauses : List StationEvent} (he : ¬P e) (hpauses : ∀ event ∈ pauses, ∃ n, event = .paused n) :
    (∃ e', .ran (r.command g.timeLimit) e' ∈ StationEvent.ran (r.command g.timeLimit) e :: (pauses ++ events) ∧ P e') ↔
      ∃ e', .ran (r.command g.timeLimit) e' ∈ events ∧ P e' := by
  have hnone : ∀ e', .ran (r.command g.timeLimit) e' ∉ pauses := by
    intro e' hmem
    obtain ⟨n, hn⟩ := hpauses _ hmem
    cases hn
  constructor
  · rintro ⟨e', hmem, he'⟩
    have hne : e' ≠ e := by
      rintro rfl
      exact he he'
    exact ⟨e', by simpa [hnone, hne] using hmem, he'⟩
  · rintro ⟨e', hmem, he'⟩
    exact ⟨e', by simp [hmem], he'⟩

end Events

/-! ## Every request has a course -/

/-- Giving up asks at most who is logged in, and ends with a refusal. -/
theorem giveUp_told (error : HostError) (s : Scope) (d : Desk (Session (Recorded σ))) :
    ∃ events error', (g.recorded.giveUp error s d).2.world.world.events = d.world.world.events ++ events ∧
      (∀ event ∈ events, ∃ e, event = .ran g.loginCommand e) ∧
      (g.recorded.giveUp error s d).1 = .error (.host error') ∧ (error' = error ∨ error'.kind = .authentication) := by
  unfold giveUp
  by_cases hkind : error.kind = .rateLimit
  · simp only [hkind, ne_eq, not_true_eq_false, if_false]
    exact ⟨[], error, (List.append_nil _).symm, by simp, rfl, .inl rfl⟩
  · simp only [ne_eq, hkind, not_false_eq_true, if_true]
    have hrun : g.recorded.station.run g.loginCommand d.world.world = (_, _) := rfl
    obtain ⟨log, ⟨-, hcheck⟩ | ⟨-, hcheck⟩⟩ := checkAuthentication_apply (s := s) hrun
    · rw [bind_of_ok _ hcheck]
      exact ⟨[_], error, rfl, by simp, rfl, .inl rfl⟩
    · rw [bind_of_error _ hcheck]
      exact ⟨[_], _, rfl, by simp, rfl, .inr rfl⟩

/-- Between two attempts there is a pause, and behind the last one there is none. -/
theorem pause_told (g : Gateway σ) (left : Nat) (pause : Binary64) (w : Recorded σ) :
    ∃ pauses : List StationEvent, (∀ event ∈ pauses, ∃ n, event = .paused n) ∧
      (if 0 < left then g.recorded.station.pause (.real pause) w else w).events = w.events ++ pauses := by
  by_cases hmore : 0 < left
  · rw [if_pos hmore]
    exact ⟨[.paused (.real pause)], by simp, rfl⟩
  · rw [if_neg hmore]
    exact ⟨[], by simp, (List.append_nil _).symm⟩

/-- By induction on the attempts that are left. -/
theorem attemptFrom_course (g : Gateway σ) (r : Request) (left : Nat) (error : Option HostError) (s : Scope)
    (d : Desk (Session (Recorded σ))) :
    ∃ events, (g.recorded.attemptFrom r left error s d).2.world.world.events = d.world.world.events ++ events ∧
      g.Course r left error events (g.recorded.attemptFrom r left error s d).1 := by
  induction left generalizing error d with
  | zero =>
    cases error with
    | none => exact ⟨[], (List.append_nil _).symm, .untried⟩
    | some error =>
      obtain ⟨events, error', hevents, hlogin, hresult, hgiven⟩ := giveUp_told (g := g) error s d
      refine ⟨events, hevents, ?_⟩
      rw [attemptFrom, hresult]
      exact .gaveUp hlogin hgiven
  | succ left ih =>
    rcases hbackoff : Pause.backoff (g.maxAttempts - left) with f | b
    · have hbroken : g.recorded.attemptFrom r (left + 1) error s d = (.error (.fault f), d) := by
        rw [attemptFrom]
        exact bind_of_error _ (by rw [show g.recorded.maxAttempts = g.maxAttempts from rfl, hbackoff]; rfl)
      rw [hbroken]
      exact ⟨[], (List.append_nil _).symm, .overlong hbackoff⟩
    · rcases hended : g.station.run (r.command g.timeLimit) d.world.world.world with ⟨e, w⟩
      have hrun : g.recorded.station.run (r.command g.recorded.timeLimit) d.world.world = _ :=
        Station.recorded_run hended
      obtain ⟨log, hstep⟩ := attemptFrom_succ_apply (g := g.recorded) (s := s) error hbackoff hrun
      rw [hstep]
      generalize ht : g.recorded.station.now _ = t
      have hends : ∀ result, Request.Verdict.end?
          (r.judge g.recorded.nesting (g.recorded.maxAttempts - left) b (seconds t) e.output?) = some result →
          g.Course r (left + 1) error [.ran (r.command g.timeLimit) e] result :=
        fun result hverdict => .ended hbackoff hverdict
      rcases hverdict : r.judge g.recorded.nesting (g.recorded.maxAttempts - left) b (seconds t) e.output? with
        f | x | refusal | ⟨lost, pause⟩ <;> rw [hverdict] at hends
      · exact ⟨_, rfl, hends _ rfl⟩
      · exact ⟨_, rfl, hends _ rfl⟩
      · exact ⟨_, rfl, hends _ rfl⟩
      · obtain ⟨pauses, hpaused, hbefore⟩ :=
          pause_told g left pause ⟨w, d.world.world.events ++ [.ran (r.command g.timeLimit) e]⟩
        obtain ⟨events, hevents, hcourse⟩ := ih (some lost) ⟨{ d.world with world := _ }, log⟩
        refine ⟨_, hevents.trans ?_, .lost hbackoff hverdict hpaused hcourse⟩
        exact (congrArg (· ++ events) hbefore).trans (by simp)

theorem request_course (g : Gateway σ) (r : Request) (s : Scope) (d : Desk (Session σ)) :
    g.Course r g.maxAttempts.toNat none (g.trace r s d) (g.request r s d).1 := by
  obtain ⟨events, hevents, hcourse⟩ := attemptFrom_course g r g.maxAttempts.toNat none s
    ⟨⟨⟨d.world.world, []⟩, d.world.cache⟩, d.log⟩
  have htrace : g.trace r s d = events := hevents.trans (List.nil_append _)
  rw [htrace, ← request_recorded]
  exact hcourse

/-! ## What a course tells -/

/-- A request that may be attempted at all is: the first pause that it may need is never too long. -/
theorem trace_begins (g : Gateway σ) (r : Request) (s : Scope) (d : Desk (Session σ)) (h : 1 ≤ g.maxAttempts) :
    ∃ e more, g.trace r s d = .ran (r.command g.timeLimit) e :: more := by
  obtain ⟨left, hleft⟩ : ∃ left, g.maxAttempts.toNat = left + 1 := ⟨g.maxAttempts.toNat - 1, by omega⟩
  have hcourse := request_course g r s d
  rw [hleft] at hcourse
  generalize g.trace r s d = events at hcourse ⊢
  generalize (g.request r s d).1 = result at hcourse
  cases hcourse with
  | overlong hbackoff =>
    have hfirst : g.maxAttempts - left = 1 := by omega
    rw [hfirst, Pause.backoff_of_le (by decide) (by decide)] at hbackoff
    cases hbackoff
  | ended | lost => exact ⟨_, _, rfl⟩

/-- **Missing resources are told.** A request ends with the refusal that there is no such resource exactly if an attempt
was answered so, in words that can be read. -/
theorem Course.missing (h : g.Course r left error events result) (herror : ∀ e, error = some e → e.kind ≠ .notFound) :
    (∃ e, result = .error (.host e) ∧ e.kind = .notFound) ↔
      ∃ e, .ran (r.command g.timeLimit) e ∈ events ∧ e.Missing g.nesting := by
  induction h with
  | untried => simp
  | gaveUp hlogin hgiven =>
    have hthere := herror _ rfl
    constructor
    · rintro ⟨e, he, hkind⟩
      obtain rfl := Failure.host.inj (Except.error.inj he)
      rcases hgiven with rfl | hauthentication
      · exact absurd hkind hthere
      · rw [hauthentication] at hkind
        cases hkind
    · rintro ⟨e, hmem, -⟩
      obtain ⟨c, hc⟩ := hlogin _ hmem
      exact absurd (StationEvent.ran.inj hc).1 command_ne_login
  | overlong hbackoff => simp
  | @ended left error b t e result hbackoff hverdict =>
    have hmisses := r.judge_misses g.nesting (g.maxAttempts - left) b (seconds t) e
    rw [ran_last_iff (P := fun e => e.Missing g.nesting)]
    generalize r.judge g.nesting (g.maxAttempts - left) b (seconds t) e.output? = verdict at hmisses hverdict
    rcases verdict with f | x | refusal | ⟨lost, pause⟩
    · obtain rfl := Option.some.inj hverdict
      exact ⟨fun ⟨_, he, _⟩ => (nomatch he), fun hmissing => absurd hmissing hmisses⟩
    · obtain rfl := Option.some.inj hverdict
      exact ⟨fun ⟨_, he, _⟩ => (nomatch he), fun hmissing => absurd hmissing hmisses⟩
    · obtain rfl := Option.some.inj hverdict
      refine Iff.trans ⟨?_, fun hkind => ⟨refusal, rfl, hkind⟩⟩ hmisses
      rintro ⟨e', he, hkind⟩
      obtain rfl := Failure.host.inj (Except.error.inj he)
      exact hkind
    · cases hverdict
  | @lost left error b pause t e lost pauses events result hbackoff hverdict hpauses hmore ih =>
    have hmisses := r.judge_misses g.nesting (g.maxAttempts - left) b (seconds t) e
    rw [hverdict] at hmisses
    rw [ran_lost_iff (P := fun e => e.Missing g.nesting) hmisses.2 hpauses]
    refine ih fun e' he' => ?_
    obtain rfl := Option.some.inj he'
    exact hmisses.1

end Gateway

end RunSteward
