import RunSteward.Proofs.Gateway.Course

/-!
# What traces tell

The trace of a request tells how the request ends, however many attempts it has (`trace_told`). It ends with a reply
exactly if that reply was printed in answer to it and says that the request was done. It breaks off over a pause or over
an explanation that cannot be read exactly if such a reply was printed. With one to 1024 attempts there is no other
fault.
-/

namespace RunSteward

variable {σ : Type}

/-! ## One attempt -/

namespace CommandEnd

/-- An attempt that was answered by the news that the request was done. -/
def Accepted (e : CommandEnd) : Prop :=
  ∃ x, e.reply? = some x ∧ x.Succeeded

/-- An attempt that was answered by a used-up rate limit and a pause that cannot be read. -/
def Muddled (e : CommandEnd) : Prop :=
  ∃ x, e.reply? = some x ∧ x.Throttled ∧ Pause.Ornate x.headers

/-- An attempt that was refused for a reason that cannot be read. -/
def Unexplained (e : CommandEnd) (nesting : Nat) (f : Fault) : Prop :=
  ∃ x, e.reply? = some x ∧ x.Final ∧ ¬x.Succeeded ∧ Refusal.explanation nesting x.body = .error f

/-- An attempt that a request breaks off over. -/
def Breaks (e : CommandEnd) (nesting : Nat) (f : Fault) : Prop :=
  (f = .pauseUnreadable ∧ e.Muddled) ∨ e.Unexplained nesting f

variable {e : CommandEnd} {nesting : Nat} {f f' : Fault}

theorem Muddled.not_unexplained (h : e.Muddled) : ¬e.Unexplained nesting f := by
  obtain ⟨x, hreply, hthrottled, -⟩ := h
  rintro ⟨y, hreply', hfinal, -⟩
  obtain rfl : x = y := Option.some.inj (hreply.symm.trans hreply')
  exact hthrottled.not_final hfinal

theorem Breaks.not_accepted (h : e.Breaks nesting f) : ¬e.Accepted := by
  rintro ⟨y, hreply', hsucceeded⟩
  rcases h with ⟨-, x, hreply, hthrottled, -⟩ | ⟨x, hreply, -, hx, -⟩
  · obtain rfl : x = y := Option.some.inj (hreply.symm.trans hreply')
    exact hthrottled.not_succeeded hsucceeded
  · obtain rfl : x = y := Option.some.inj (hreply.symm.trans hreply')
    exact hx hsucceeded

theorem Breaks.unique (h : e.Breaks nesting f) (h' : e.Breaks nesting f') : f = f' := by
  rcases h with ⟨rfl, hmuddled⟩ | hunexplained
  · rcases h' with ⟨rfl, -⟩ | hunexplained'
    · rfl
    · exact absurd hunexplained' hmuddled.not_unexplained
  · rcases h' with ⟨-, hmuddled⟩ | ⟨y, hreply', -, -, hbody'⟩
    · exact absurd hunexplained hmuddled.not_unexplained
    · obtain ⟨x, hreply, -, -, hbody⟩ := hunexplained
      obtain rfl : x = y := Option.some.inj (hreply.symm.trans hreply')
      exact Except.error.inj (hbody.symm.trans hbody')

end CommandEnd

/-- A fault that a reply may lead to. -/
def Fault.OfReply (f : Fault) : Prop :=
  f = .pauseUnreadable ∨ Json.Limit f

theorem CommandEnd.Breaks.ofReply {e : CommandEnd} {nesting : Nat} {f : Fault} (h : e.Breaks nesting f) : f.OfReply := by
  rcases h with ⟨rfl, -⟩ | ⟨x, -, -, -, hbody⟩
  · exact .inl rfl
  · exact .inr (Refusal.explanation_fault hbody)

namespace Request

/-- What the verdict on an attempt tells of its end. -/
def Verdict.Tells (nesting : Nat) (e : CommandEnd) : Except Fault Verdict → Prop
  | .error f => e.Breaks nesting f
  | .ok (.settled x) => e.reply? = some x ∧ x.Succeeded
  | .ok (.refused _) | .ok (.unsettled _ _) => ¬e.Accepted ∧ ∀ f, ¬e.Breaks nesting f

variable {attempt : Int} {b : Binary64}

theorem judge_tells (r : Request) (nesting : Nat) (e : CommandEnd) (hbackoff : Pause.backoff attempt = .ok b)
    (t : Stamp) : Verdict.Tells nesting e (r.judge nesting attempt b (Gateway.seconds t) e.output?) := by
  have hsilent : e.reply? = none → ¬e.Accepted ∧ ∀ f, ¬e.Breaks nesting f := by
    intro hnone
    simp [CommandEnd.Accepted, CommandEnd.Breaks, CommandEnd.Muddled, CommandEnd.Unexplained, hnone]
  rw [judge]
  rcases hread : e.output?.map Exchange.read with _ | error | x
  · exact hsilent (by rw [CommandEnd.reply?, hread]; rfl)
  · exact hsilent (by rw [CommandEnd.reply?, hread]; rfl)
  have hreply : e.reply? = some x := by rw [CommandEnd.reply?, hread]; rfl
  have haccepted : e.Accepted ↔ x.Succeeded := by simp [CommandEnd.Accepted, hreply]
  have hmuddled : e.Muddled ↔ x.Throttled ∧ Pause.Ornate x.headers := by simp [CommandEnd.Muddled, hreply]
  have hunexplained : ∀ f, e.Unexplained nesting f ↔
      x.Final ∧ ¬x.Succeeded ∧ Refusal.explanation nesting x.body = .error f := by
    simp [CommandEnd.Unexplained, hreply]
  dsimp only
  rw [judgeReply]
  by_cases hsucceeded : x.Succeeded
  · rw [if_pos (Exchange.isSuccess_iff.mpr hsucceeded)]
    exact ⟨hreply, hsucceeded⟩
  rw [if_neg (mt Exchange.isSuccess_iff.mp hsucceeded)]
  by_cases hthrottled : x.Throttled
  · rw [if_pos (Exchange.isRateLimited_iff.mpr hthrottled)]
    rcases Pause.rateLimit_told x.headers hbackoff t with ⟨pause, hpause, hplain⟩ | ⟨hpause, hornate⟩
    · rw [hpause]
      refine ⟨mt haccepted.mp hsucceeded, fun f => ?_⟩
      rintro (⟨-, h⟩ | h)
      · exact hplain (hmuddled.mp h).2
      · exact hthrottled.not_final ((hunexplained f).mp h).1
    · rw [hpause]
      exact .inl ⟨rfl, hmuddled.mpr ⟨hthrottled, hornate⟩⟩
  rw [if_neg (mt Exchange.isRateLimited_iff.mp hthrottled)]
  have hcalm : ¬e.Muddled := fun h => hthrottled (hmuddled.mp h).1
  by_cases hserver : 500 ≤ x.status
  · rw [if_pos hserver]
    refine ⟨mt haccepted.mp hsucceeded, fun f => ?_⟩
    rintro (⟨-, h⟩ | h)
    · exact hcalm h
    · rcases ((hunexplained f).mp h).1 with hx | ⟨hx, -⟩
      · exact hsucceeded hx
      · omega
  · have hfinal : x.Final := .inr ⟨by omega, hthrottled⟩
    rw [if_neg hserver, Refusal.error]
    rcases hbody : Refusal.explanation nesting x.body with f | text
    · exact .inr ((hunexplained f).mpr ⟨hfinal, hsucceeded, hbody⟩)
    · refine ⟨mt haccepted.mp hsucceeded, fun f => ?_⟩
      rintro (⟨-, h⟩ | h)
      · exact hcalm h
      · have hbreak := ((hunexplained f).mp h).2.2
        rw [hbody] at hbreak
        cases hbreak

end Request

/-! ## All attempts -/

namespace Gateway

open Act

variable {g : Gateway σ} {r : Request} {events : List StationEvent} {result : Except Failure Exchange}

/-- What the events of a request tell of its end. -/
structure Told (g : Gateway σ) (r : Request) (events : List StationEvent) (result : Except Failure Exchange) :
    Prop where
  commands : ∀ c e, .ran c e ∈ events → c = r.command g.timeLimit ∨ c = g.loginCommand
  accepted : ∀ x, result = .ok x ↔
    ∃ e, .ran (r.command g.timeLimit) e ∈ events ∧ e.reply? = some x ∧ x.Succeeded
  broken : ∀ f : Fault, f.OfReply →
    (result = .error (.fault f) ↔ ∃ e, .ran (r.command g.timeLimit) e ∈ events ∧ e.Breaks g.nesting f)
  fault : 1 ≤ g.maxAttempts → g.maxAttempts ≤ 1024 → ∀ f, result = .error (.fault f) → f.OfReply

theorem Told.of_failure {f : Failure} (hevents : ∀ event ∈ events, ∃ e, event = .ran g.loginCommand e)
    (hf : ∀ fault, f = .fault fault → ¬fault.OfReply)
    (hfault : 1 ≤ g.maxAttempts → g.maxAttempts ≤ 1024 → ∀ fault, f ≠ .fault fault) :
    g.Told r events (.error f) := by
  have hnone : ∀ e, .ran (r.command g.timeLimit) e ∉ events := by
    intro e hmem
    obtain ⟨e', heq⟩ := hevents _ hmem
    exact command_ne_login (StationEvent.ran.inj heq).1
  refine ⟨fun c e hmem => ?_, fun x => ⟨fun h => ?_, ?_⟩, fun fault hreply => ⟨fun h => ?_, ?_⟩,
    fun hfirst hmost fault h => ?_⟩
  · obtain ⟨e', heq⟩ := hevents _ hmem
    exact .inr (StationEvent.ran.inj heq).1
  · cases h
  · rintro ⟨e, hmem, -⟩
    exact absurd hmem (hnone e)
  · exact absurd hreply (hf fault (Except.error.inj h))
  · rintro ⟨e, hmem, -⟩
    exact absurd hmem (hnone e)
  · exact absurd (Except.error.inj h) (hfault hfirst hmost fault)

theorem Told.of_last {e : CommandEnd}
    (h : (∃ x, result = .ok x ∧ e.reply? = some x ∧ x.Succeeded) ∨
      (∃ f, result = .error (.fault f) ∧ e.Breaks g.nesting f) ∨
      ∃ error, result = .error (.host error) ∧ ¬e.Accepted ∧ ∀ f, ¬e.Breaks g.nesting f) :
    g.Told r [.ran (r.command g.timeLimit) e] result := by
  have hcommands : ∀ c e', .ran c e' ∈ [StationEvent.ran (r.command g.timeLimit) e] →
      c = r.command g.timeLimit ∨ c = g.loginCommand := by
    intro c e' hmem
    exact .inl (StationEvent.ran.inj (List.mem_singleton.mp hmem)).1
  rcases h with ⟨x, rfl, hreply, hx⟩ | ⟨f, rfl, hbreaks⟩ | ⟨error, rfl, haccepted, hunbroken⟩
  · have hunbroken : ∀ f, ¬e.Breaks g.nesting f := fun f hbreaks => hbreaks.not_accepted ⟨x, hreply, hx⟩
    refine ⟨hcommands, fun y => ?_, fun f _ => ?_, fun _ _ f h => nomatch h⟩
    · rw [ran_last_iff (P := fun e => e.reply? = some y ∧ y.Succeeded)]
      constructor
      · intro heq
        obtain rfl := Except.ok.inj heq
        exact ⟨hreply, hx⟩
      · rintro ⟨hreply', -⟩
        rw [Option.some.inj (hreply.symm.trans hreply')]
    · rw [ran_last_iff (P := fun e => e.Breaks g.nesting f)]
      exact ⟨fun h => (nomatch h), fun h => absurd h (hunbroken f)⟩
  · refine ⟨hcommands, fun y => ?_, fun f' _ => ?_, fun _ _ f' h => ?_⟩
    · rw [ran_last_iff (P := fun e => e.reply? = some y ∧ y.Succeeded)]
      exact ⟨fun h => (nomatch h), fun h => absurd ⟨y, h⟩ hbreaks.not_accepted⟩
    · rw [ran_last_iff (P := fun e => e.Breaks g.nesting f')]
      constructor
      · intro h
        obtain rfl := Failure.fault.inj (Except.error.inj h)
        exact hbreaks
      · intro hbreaks'
        rw [hbreaks.unique hbreaks']
    · obtain rfl := Failure.fault.inj (Except.error.inj h)
      exact hbreaks.ofReply
  · refine ⟨hcommands, fun y => ?_, fun f _ => ?_, fun _ _ f h => nomatch h⟩
    · rw [ran_last_iff (P := fun e => e.reply? = some y ∧ y.Succeeded)]
      exact ⟨fun h => (nomatch h), fun h => absurd ⟨y, h⟩ haccepted⟩
    · rw [ran_last_iff (P := fun e => e.Breaks g.nesting f)]
      exact ⟨fun h => (nomatch h), fun h => absurd h (hunbroken f)⟩

/-- An attempt that neither was accepted nor breaks the request off tells nothing of the end. -/
theorem Told.cons {e : CommandEnd} {pauses : List StationEvent} (h : g.Told r events result)
    (haccepted : ¬e.Accepted) (hunbroken : ∀ f, ¬e.Breaks g.nesting f)
    (hpauses : ∀ event ∈ pauses, ∃ n, event = .paused n) :
    g.Told r (.ran (r.command g.timeLimit) e :: (pauses ++ events)) result := by
  refine ⟨fun c e' hmem => ?_, fun x => ?_, fun f hreply => ?_, h.fault⟩
  · rcases List.mem_cons.mp hmem with heq | hmem
    · exact .inl (StationEvent.ran.inj heq).1
    · rcases List.mem_append.mp hmem with hmem | hmem
      · obtain ⟨n, hn⟩ := hpauses _ hmem
        cases hn
      · exact h.commands c e' hmem
  · rw [ran_lost_iff (P := fun e => e.reply? = some x ∧ x.Succeeded) (fun hx => haccepted ⟨x, hx⟩) hpauses]
    exact h.accepted x
  · rw [ran_lost_iff (P := fun e => e.Breaks g.nesting f) (hunbroken f) hpauses]
    exact h.broken f hreply

/-- By induction on the course. Before the first attempt no attempt can have failed. -/
theorem Course.told {left : Nat} {error : Option HostError} (h : g.Course r left error events result)
    (hleft : left ≤ g.maxAttempts.toNat) (herror : error = none → left = g.maxAttempts.toNat) :
    g.Told r events result := by
  induction h with
  | untried =>
    have hnone := herror rfl
    refine .of_failure (by simp) ?_ fun hfirst => ?_
    · rintro _ ⟨⟩ (h | h) <;> cases h
    · omega
  | gaveUp hlogin => exact .of_failure hlogin (by simp) fun _ _ fault => by simp
  | overlong hbackoff =>
    obtain ⟨rfl, hrange⟩ := Pause.backoff_error hbackoff
    refine .of_failure (by simp) ?_ fun hfirst hmost => ?_
    · rintro _ ⟨⟩ (h | h) <;> cases h
    · omega
  | @ended left error b t e result hbackoff hverdict =>
    have htells := r.judge_tells g.nesting e hbackoff t
    generalize r.judge g.nesting (g.maxAttempts - left) b (seconds t) e.output? = verdict at htells hverdict
    rcases verdict with f | x | refusal | ⟨lost, pause⟩
    · exact .of_last (.inr (.inl ⟨f, (Option.some.inj hverdict).symm, htells⟩))
    · exact .of_last (.inl ⟨x, (Option.some.inj hverdict).symm, htells⟩)
    · exact .of_last (.inr (.inr ⟨refusal, (Option.some.inj hverdict).symm, htells⟩))
    · cases hverdict
  | @lost left error b pause t e lost pauses events result hbackoff hverdict hpauses hmore ih =>
    have htells := r.judge_tells g.nesting e hbackoff t
    rw [hverdict] at htells
    exact (ih (by omega) fun h => by cases h).cons htells.1 htells.2 hpauses

theorem request_told (g : Gateway σ) (r : Request) (s : Scope) (d : Desk (Session (Recorded σ))) :
    ∃ events, (g.recorded.request r s d).2.world.world.events = d.world.world.events ++ events ∧
      g.Told r events (g.recorded.request r s d).1 := by
  obtain ⟨events, hevents, hcourse⟩ := attemptFrom_course g r g.maxAttempts.toNat none s d
  exact ⟨events, hevents, hcourse.told (Nat.le_refl _) fun _ => rfl⟩

/-- **Traces tell how requests end.** -/
theorem trace_told (g : Gateway σ) (r : Request) (s : Scope) (d : Desk (Session σ)) :
    g.Told r (g.trace r s d) (g.request r s d).1 :=
  (request_course g r s d).told (Nat.le_refl _) fun _ => rfl

end Gateway

end RunSteward
