import Mathlib.Tactic.IntervalCases
import RunSteward.CommandLine.Errands
import RunSteward.Config.Reader
import RunSteward.Proofs.Gateway.OnRecord
import RunSteward.Proofs.Number.Value

/-!
# Backing off

A request whose attempts all fail in a way that may pass (`CommandEnd.Retryable`) is attempted as often as there are
attempts, with pauses that double up to a minute, and then ends with an error of the host: `request_backs_off`. That is
so with up to 1024 attempts. With more of them the request breaks off before the attempt with the number 1025, for the
power of two from which its pause would be cut down to a minute is no number any more.

One attempt of this kind leaves the request with the pause that is due without advice (`judge_retryable`); all of them
follow by induction on the attempts that are left (`attemptFrom_weathered`).
-/

namespace RunSteward

variable {σ : Type}

/-! ## The pause without advice -/

namespace Pause

/-- The pause after so many attempts and one more, if no reply asks for another one. -/
def regular (made : Nat) : Binary64 :=
  Binary64.least (powerOfTwo made) longest

theorem backoff_regular {made : Nat} (h : made < 1024) : backoff (made + 1) = .ok (regular made) := by
  rw [backoff_of_le (by omega) (by omega), regular, Int.add_sub_cancel]

theorem backoff_of_lt {attempt : Int} (h : 1024 < attempt) : backoff attempt = .error .pauseTooLong := by
  unfold backoff
  rw [if_pos (.inl (by omega))]

theorem toRat?_longest : longest.toRat? = some 60 := by
  have hlongest : longest = .finite false (60 * 2 ^ 47) (-47) := by decide +kernel
  rw [hlongest, Binary64.toRat?]
  norm_num

/-- **Pauses double up to a minute.** -/
theorem toRat?_regular {made : Nat} (h : made < 1024) : (regular made).toRat? = some (min (2 ^ made) 60) :=
  Binary64.toRat?_least (Binary64.toRat?_power (Nat.le_of_lt_succ h)) toRat?_longest

end Pause

/-! ## One attempt -/

/-- An attempt that failed in a way that may pass: it took too long, it was answered by nothing that can be read, or by
an error of the server. -/
def CommandEnd.Retryable (e : CommandEnd) : Prop :=
  ∀ x, e.reply? = some x → 500 ≤ x.status

namespace Request

theorem judge_retryable (r : Request) {e : CommandEnd} (h : e.Retryable) (nesting : Nat) (attempt : Int)
    (backoff : Binary64) (now : Number) :
    ∃ error, r.judge nesting attempt backoff now e.output? = .ok (.unsettled error backoff) := by
  rw [judge]
  rcases hread : e.output?.map Exchange.read with _ | error | x
  · exact ⟨_, rfl⟩
  · exact ⟨_, rfl⟩
  have hserver : 500 ≤ x.status := h x (by rw [CommandEnd.reply?, hread]; rfl)
  have hsuccess : ¬x.isSuccess = true := by
    rw [Exchange.isSuccess_iff, Exchange.Succeeded]
    omega
  have hlimited : ¬x.isRateLimited = true := by
    rw [Exchange.isRateLimited_iff, Exchange.Throttled]
    omega
  simp only [judgeReply, if_neg hsuccess, if_neg hlimited, if_pos hserver]
  exact ⟨_, rfl⟩

end Request

namespace Gateway

open Act

variable {g : Gateway σ} {r : Request} {made left : Nat} {events : List StationEvent} {result : Except Failure Exchange}

/-- An attempt that fails in a way that may pass is followed by the due pause, if more attempts are left, and by the
next attempt. Any other attempt can end the request. -/
theorem attemptFrom_made (hmade : made < 1024) (hleft : (made + (left + 1) : Int) = g.maxAttempts)
    (error : Option HostError) (s : Scope) (d : Desk (Session (Recorded σ))) :
    ∃ e,
      (∃ result d', g.recorded.attemptFrom r (left + 1) error s d = (result, d') ∧
        d'.world.world.events = d.world.world.events ++ [.ran (r.command g.timeLimit) e] ∧ ¬e.Retryable) ∨
      ∃ lost pause d', g.recorded.attemptFrom r (left + 1) error s d = g.recorded.attemptFrom r left (some lost) s d' ∧
        d'.world.world.events = d.world.world.events ++
          .ran (r.command g.timeLimit) e :: (if 0 < left then [.paused (.real pause)] else []) ∧
        (e.Retryable → pause = Pause.regular made) := by
  have hattempt : g.recorded.maxAttempts - left = made + 1 := by
    change g.maxAttempts - left = _
    omega
  have hbackoff : Pause.backoff (g.recorded.maxAttempts - left) = .ok (Pause.regular made) := by
    rw [hattempt, Pause.backoff_regular hmade]
  rcases hended : g.station.run (r.command g.timeLimit) d.world.world.world with ⟨e, w⟩
  have hrun : g.recorded.station.run (r.command g.recorded.timeLimit) d.world.world = _ :=
    Station.recorded_run hended
  obtain ⟨log, hstep⟩ := attemptFrom_succ_apply (s := s) error hbackoff hrun
  refine ⟨e, ?_⟩
  rw [hstep]
  generalize hverdict : r.judge _ _ _ _ e.output? = verdict
  have hunsettled : e.Retryable → ∃ lost, verdict = .ok (.unsettled lost (Pause.regular made)) := fun hretry =>
    hverdict ▸ r.judge_retryable hretry _ _ _ _
  rcases verdict with f | x | refusal | ⟨lost, pause⟩
  · exact .inl ⟨_, _, rfl, rfl, fun hretry => nomatch hunsettled hretry⟩
  · exact .inl ⟨_, _, rfl, rfl, fun hretry => nomatch hunsettled hretry⟩
  · exact .inl ⟨_, _, rfl, rfl, fun hretry => nomatch hunsettled hretry⟩
  · refine .inr ⟨lost, pause, _, rfl, ?_, fun hretry => ?_⟩
    · by_cases hmore : 0 < left
      · simp only [if_pos hmore]
        change d.world.world.events ++ [_] ++ [_] = _
        rw [List.append_assoc]
        rfl
      · simp only [if_neg hmore]
        rfl
    · obtain ⟨_, heq⟩ := hunsettled hretry
      cases heq
      rfl

/-- The pause after the attempt with the number 1025 is too long, so this attempt is not made. -/
theorem attemptFrom_overlong (hleft : (1024 + (left + 1) : Int) = g.maxAttempts) (error : Option HostError) (s : Scope)
    (d : Desk (Session (Recorded σ))) :
    g.recorded.attemptFrom r (left + 1) error s d = (.error (.fault .pauseTooLong), d) := by
  have hbackoff : Pause.backoff (g.recorded.maxAttempts - left) = .error .pauseTooLong := by
    refine Pause.backoff_of_lt ?_
    change 1024 < g.maxAttempts - left
    omega
  rw [attemptFrom]
  exact bind_of_error _ (by rw [hbackoff]; rfl)

/-! ## All attempts -/

/-- Attempts with a pause behind each of them. -/
def rounds (g : Gateway σ) (r : Request) (tries : List (CommandEnd × Binary64)) : List StationEvent :=
  tries.flatMap fun t => [.ran (r.command g.timeLimit) t.1, .paused (.real t.2)]

/-- What comes of a request some attempts of which were made, and some are left, if all that are made fail in a way
that may pass: either all of them are made, and the request ends with an error of the host after asking at most who
is logged in, or the pause after one more attempt is too long. -/
inductive Weathered (g : Gateway σ) (r : Request) (made left : Nat) :
    List StationEvent → Except Failure Exchange → Prop where
  | exhausted (tries : List (CommandEnd × Binary64)) {last : CommandEnd} {afterwards : List StationEvent}
      {error : HostError} (hlength : tries.length + 1 = left) (hrange : made + left ≤ 1024)
      (hpauses : tries.map Prod.snd = (List.range' made tries.length).map Pause.regular)
      (hafterwards : ∀ event ∈ afterwards, ∃ e, event = .ran g.loginCommand e) :
      Weathered g r made left (g.attempts r tries last afterwards) (.error (.host error))
  | overlong (tries : List (CommandEnd × Binary64)) (hlength : made + tries.length = 1024) (hrange : 1024 < made + left)
      (hpauses : tries.map Prod.snd = (List.range' made tries.length).map Pause.regular) :
      Weathered g r made left (g.rounds r tries) (.error (.fault .pauseTooLong))

theorem Weathered.cons (h : g.Weathered r (made + 1) left events result) (e : CommandEnd) :
    g.Weathered r made (left + 1)
      (.ran (r.command g.timeLimit) e :: .paused (.real (Pause.regular made)) :: events) result := by
  cases h with
  | exhausted tries hlength hrange hpauses hafterwards =>
    refine .exhausted ((e, Pause.regular made) :: tries) (by simpa using hlength) (by omega) ?_ hafterwards
    simp [List.range'_succ, hpauses]
  | overlong tries hlength hrange hpauses =>
    refine .overlong ((e, Pause.regular made) :: tries) (by rw [List.length_cons]; omega) (by omega) ?_
    simp [List.range'_succ, hpauses]

/-- The events of attempts that fail in a way that may pass. -/
def AllRetryable (g : Gateway σ) (r : Request) (events : List StationEvent) : Prop :=
  ∀ e, .ran (r.command g.timeLimit) e ∈ events → e.Retryable

/-- By induction on the attempts that are left: each one is the last, or followed by the pause that is due. -/
theorem attemptFrom_weathered (g : Gateway σ) (r : Request) (made left : Nat) (hmade : made ≤ 1024)
    (hleft : (made + (left + 1) : Int) = g.maxAttempts) (error : Option HostError) (s : Scope)
    (d : Desk (Session (Recorded σ))) :
    ∃ events, (g.recorded.attemptFrom r (left + 1) error s d).2.world.world.events = d.world.world.events ++ events ∧
      (g.AllRetryable r events →
        g.Weathered r made (left + 1) events (g.recorded.attemptFrom r (left + 1) error s d).1) := by
  induction left using Nat.strongRecOn generalizing made error d with
  | ind left ih =>
    obtain rfl | hmost := Nat.eq_or_lt_of_le hmade
    · refine ⟨[], ?_, fun _ => ?_⟩
      · rw [attemptFrom_overlong (r := r) hleft error s d, List.append_nil]
      · rw [attemptFrom_overlong (r := r) hleft error s d]
        exact .overlong [] rfl (by omega) rfl
    obtain ⟨e, ⟨result, d', hend, hevents, hsettled⟩ | ⟨lost, pause, d', hstep, hevents, hpause⟩⟩ :=
      attemptFrom_made (r := r) hmost hleft error s d
    · rw [hend]
      exact ⟨_, hevents, fun hall => absurd (hall e (by simp)) hsettled⟩
    rw [hstep]
    rcases left with _ | left
    · obtain ⟨afterwards, error', hafter, hlogin, hresult, -⟩ := giveUp_told (g := g) lost s d'
      refine ⟨.ran (r.command g.timeLimit) e :: afterwards, ?_, fun _ => ?_⟩
      · refine hafter.trans ?_
        simp [hevents]
      · rw [attemptFrom, hresult]
        exact .exhausted [] rfl (by omega) rfl hlogin
    · obtain ⟨events, hafter, hrest⟩ := ih left (by omega) (made + 1) hmost (by omega) (some lost) d'
      refine ⟨.ran (r.command g.timeLimit) e :: .paused (.real pause) :: events, ?_, fun hall => ?_⟩
      · rw [hafter, hevents]
        simp
      · obtain rfl := hpause (hall e (by simp))
        exact (hrest fun e' hmem => hall e' (by simp [hmem])).cons e

theorem request_weathered (g : Gateway σ) (r : Request) (hfirst : 1 ≤ g.maxAttempts) (s : Scope) (d : Desk (Session σ))
    (hretry : g.AllRetryable r (g.trace r s d)) :
    ∃ left : Nat, (left : Int) = g.maxAttempts ∧ g.Weathered r 0 left (g.trace r s d) (g.request r s d).1 := by
  obtain ⟨left, hleft⟩ : ∃ left : Nat, g.maxAttempts.toNat = left + 1 := Nat.exists_eq_add_of_le' (by omega)
  have hrequest : g.recorded.request r = g.recorded.attemptFrom r (left + 1) none := by
    change g.recorded.attemptFrom r g.maxAttempts.toNat none = _
    rw [hleft]
  obtain ⟨events, hevents, hweathered⟩ := attemptFrom_weathered g r 0 left (Nat.zero_le _) (by omega) none s
    d.onRecord
  rw [← hrequest] at hevents hweathered
  have htrace : g.trace r s d = events := hevents.trans (List.nil_append _)
  refine ⟨left + 1, by omega, ?_⟩
  rw [htrace] at hretry ⊢
  rw [← request_recorded]
  exact hweathered hretry

theorem length_of_pauses {tries : List (CommandEnd × Binary64)} (hlength : tries.length ≤ 1024)
    (hpauses : tries.map Prod.snd = (List.range' 0 tries.length).map Pause.regular) {i : Nat} (hi : i < tries.length) :
    tries[i].2.toRat? = some (min (2 ^ i) 60) := by
  have hpause : tries[i].2 = Pause.regular i := by
    have hget := List.getElem_of_eq hpauses (by simpa using hi)
    simpa using hget
  rw [hpause]
  exact Pause.toRat?_regular (by omega)

/-- **Backing off.** If all attempts of a request fail in a way that may pass, then with one to 1024 attempts all of
them are made, the pause after the first one lasts for a second and each further one for twice as long, up to a minute,
and the request ends with an error of the host. With more attempts the first 1024 are made in the same way, each with
its pause, and the request breaks off over the next pause, for which there is no number. -/
theorem request_backs_off (g : Gateway σ) (r : Request) (hfirst : 1 ≤ g.maxAttempts) (s : Scope) (d : Desk (Session σ))
    (hretry : g.AllRetryable r (g.trace r s d)) :
    (g.maxAttempts ≤ 1024 → ∃ tries last afterwards error, g.trace r s d = g.attempts r tries last afterwards ∧
      (tries.length + 1 : Int) = g.maxAttempts ∧
      (∀ i (hi : i < tries.length), tries[i].2.toRat? = some (min (2 ^ i) 60)) ∧
      (∀ event ∈ afterwards, ∃ e, event = .ran g.loginCommand e) ∧ (g.request r s d).1 = .error (.host error)) ∧
    (1024 < g.maxAttempts → ∃ tries, g.trace r s d = g.rounds r tries ∧ tries.length = 1024 ∧
      (∀ i (hi : i < tries.length), tries[i].2.toRat? = some (min (2 ^ i) 60)) ∧
      (g.request r s d).1 = .error (.fault .pauseTooLong)) := by
  obtain ⟨left, hleft, hweathered⟩ := request_weathered g r hfirst s d hretry
  generalize g.trace r s d = events at hweathered ⊢
  generalize (g.request r s d).1 = result at hweathered ⊢
  cases hweathered with
  | exhausted tries hlength hrange hpauses hafterwards =>
    refine ⟨fun _ => ⟨tries, _, _, _, rfl, by omega, fun i hi => ?_, hafterwards, rfl⟩, fun hmany => by omega⟩
    exact length_of_pauses (by omega) hpauses hi
  | overlong tries hlength hrange hpauses =>
    refine ⟨fun hfew => by omega, fun _ => ⟨tries, rfl, by omega, fun i hi => ?_, rfl⟩⟩
    exact length_of_pauses (by omega) hpauses hi

/-! ## A station that never answers -/

/-- A record of commands each of which ended as the station lets it end. -/
def Answered (st : Station σ) (w : Recorded σ) : Prop :=
  ∀ c e, .ran c e ∈ w.events → ∃ v, (st.run c v).1 = e

theorem request_answered (g : Gateway σ) (r : Request) :
    Keeps (fun w => Answered g.station w.world) Failure.OfRequest (g.recorded.request r) := by
  refine request_keeps (fun checked command s d hd => ?_) (fun n s d hd => ⟨fun c e hmem => ?_, fun f hf => ?_⟩) r
  · obtain ⟨log, hcall⟩ := call_apply g.recorded.station checked command s d
    rw [hcall]
    refine ⟨fun c e hmem => ?_, by simp⟩
    rcases List.mem_append.mp hmem with hmem | hmem
    · exact hd c e hmem
    · obtain ⟨rfl, rfl⟩ := StationEvent.ran.inj (List.mem_singleton.mp hmem)
      exact ⟨_, rfl⟩
  · rcases List.mem_append.mp hmem with hmem | hmem
    · exact hd c e hmem
    · cases List.mem_singleton.mp hmem
  · cases hf

theorem trace_answered {s : Scope} {d : Desk (Session σ)} {c : Command} {e : CommandEnd}
    (h : .ran c e ∈ g.trace r s d) : ∃ v, (g.station.run c v).1 = e :=
  (request_answered g r s d.onRecord fun _ _ hmem => by cases hmem).1 c e h

/-- A station where every command takes too long. -/
def stuckStation : Station Unit where
  run _ w := (.timedOut, w)
  pause _ w := w
  now _ := default

def stuckGateway (maxAttempts : Int) : Gateway Unit :=
  { station := stuckStation, owner := "o", name := "r", maxAttempts := maxAttempts }

def stuckRequest : Request :=
  { method := .get, path := "/repos/o/r/branches" }

def stuckDesk : Desk (Session Unit) :=
  ⟨⟨(), []⟩, #[]⟩

theorem allRetryable_stuck (maxAttempts : Int) :
    (stuckGateway maxAttempts).AllRetryable stuckRequest
      ((stuckGateway maxAttempts).trace stuckRequest {} stuckDesk) := by
  intro e hmem
  obtain ⟨v, hv⟩ := trace_answered hmem
  obtain rfl : .timedOut = e := hv
  exact fun x hx => nomatch hx

/-- With nine attempts the last two pauses last for a minute. -/
theorem request_backs_off_stuck :
    ∃ tries last afterwards error,
      (stuckGateway 9).trace stuckRequest {} stuckDesk =
        (stuckGateway 9).attempts stuckRequest tries last afterwards ∧
      tries.map (fun t => t.2.toRat?) = [some 1, some 2, some 4, some 8, some 16, some 32, some 60, some 60] ∧
      (∀ event ∈ afterwards, ∃ e, event = .ran (stuckGateway 9).loginCommand e) ∧
      ((stuckGateway 9).request stuckRequest {} stuckDesk).1 = .error (.host error) := by
  obtain ⟨tries, last, afterwards, error, htrace, hlength, hpauses, hafterwards, hend⟩ :=
    (request_backs_off (stuckGateway 9) stuckRequest (by decide) {} stuckDesk (allRetryable_stuck 9)).1 (by decide)
  refine ⟨tries, last, afterwards, error, htrace, ?_, hafterwards, hend⟩
  have hcount : (tries.length + 1 : Int) = 9 := hlength
  refine List.ext_getElem (by simp; omega) fun i hi hi' => ?_
  rw [List.getElem_map, hpauses i (by simpa using hi)]
  have hi : i < 8 := by simpa using hi'
  interval_cases i <;> norm_num

/-- Settings with one more attempt than there are pauses. -/
def eagerDocument : Document.Members := [
  ("runtime", .table [("base_dir", .text "/srv"), ("gh_max_attempts", .whole 1025)]),
  ("repo", .table [("owner", .text "o"), ("name", .text "r")]),
  ("governance", .table [("trusted_committers", .list [.text "alice"])])]

def eagerConfig : AppConfig where
  runtime := { baseDir := DirPath.read "/srv", ghMaxAttempts := 1025 }
  repo := { owner := "o", name := "r" }
  governance := { trustedCommitters := ["alice"] }

/-- **Settings that are accepted can break a request off**: with 1025 attempts, all of which take too long, the last
one is not made, and no error of the host tells of those before it. -/
theorem request_breaks_off :
    Config.read (fun _ => none) eagerDocument = .ok eagerConfig ∧
      eagerConfig.gateway stuckStation = .ok (stuckGateway 1025) ∧
      (stuckGateway 1025).AllRetryable stuckRequest ((stuckGateway 1025).trace stuckRequest {} stuckDesk) ∧
      (∃ tries, (stuckGateway 1025).trace stuckRequest {} stuckDesk = (stuckGateway 1025).rounds stuckRequest tries ∧
        tries.length = 1024) ∧
      ((stuckGateway 1025).request stuckRequest {} stuckDesk).1 = .error (.fault .pauseTooLong) := by
  have hlimit : Binary64.ofInt? eagerConfig.runtime.ghTimeoutSeconds = some (.ofRatio false 60 1) := by decide +kernel
  have hgateway : eagerConfig.gateway stuckStation = .ok (stuckGateway 1025) := by
    rw [AppConfig.gateway, hlimit]
    rfl
  obtain ⟨left, hleft, hweathered⟩ :=
    request_weathered (stuckGateway 1025) stuckRequest (by decide) {} stuckDesk (allRetryable_stuck 1025)
  have hmany : (left : Int) = 1025 := hleft
  refine ⟨by rfl, hgateway, allRetryable_stuck 1025, ?_⟩
  generalize (stuckGateway 1025).trace stuckRequest {} stuckDesk = events at hweathered ⊢
  generalize ((stuckGateway 1025).request stuckRequest {} stuckDesk).1 = result at hweathered ⊢
  cases hweathered with
  | exhausted _ hlength hrange => omega
  | overlong tries hlength => exact ⟨⟨tries, rfl, by omega⟩, rfl⟩

end Gateway

end RunSteward
