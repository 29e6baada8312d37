import RunSteward.PullRequest.Merge
import RunSteward.Proofs.Gateway.OnRecord

/-!
# What became of a base merge

Bringing the base branch into a pull request takes three requests: the pull request is fetched, the update is sent,
and the pull request is fetched anew. What was asked of the station shows whether the outcome is true
(`mergeWithBase_truthful`). It is, but for one case: an update that was accepted is reported as failed exactly if the
host refused to show the pull request afterwards (`Gateway.UpdateLost`).
-/

namespace RunSteward

open Act

variable {σ : Type}

/-! ## The outcome -/

namespace BaseMerge

/-- How a base merge ends that sends no update. -/
def unsent : Except Failure (Option PullRequest) → Except Failure BaseMerge
  | .error (.host _) => .ok ⟨.failed, none⟩
  | .error (.fault f) => .error (.fault f)
  | .ok none => .ok ⟨.notFound, none⟩
  | .ok (some pr) => .ok ⟨.locked, some pr⟩

/-- How a base merge ends that sends an update of a pull request. -/
def sent (pr : PullRequest) : Except Failure PullRequest → Except Failure BaseMerge
  | .error (.host _) => .ok ⟨.failed, some pr⟩
  | .error (.fault f) => .error (.fault f)
  | .ok updated => .ok ⟨.merged, some updated⟩

end BaseMerge

namespace Coordinator

variable {c : Coordinator σ} {number : Int} {s : Scope} {d d₁ d₂ : Desk σ} {pr : PullRequest}

theorem mergeWithBase_of_found (hfetch : c.host.pullRequest number s d = (.ok (some pr), d₁)) :
    c.mergeWithBase number s d =
      (if pr.locked then do
        skipBaseMerge number "locked"
        return ⟨.locked, some pr⟩
      else do
        match ← attempt (c.host.updateBranch pr) with
        | .error e =>
          noteFailure "merge_with_base" number e
          return ⟨.failed, some pr⟩
        | .ok updated => return ⟨.merged, some updated⟩ : Act σ BaseMerge) s d₁ :=
  bind_of_ok _ (attempt_of_ok hfetch)

theorem mergeWithBase_of_unsent {r : Except Failure (Option PullRequest)}
    (hfetch : c.host.pullRequest number s d = (r, d₁)) (hlocked : ∀ pr, r = .ok (some pr) → pr.locked = true) :
    ∃ log, c.mergeWithBase number s d = (BaseMerge.unsent r, { d₁ with log := log }) := by
  rcases r with (e | f) | _ | pr
  · exact ⟨_, (bind_of_ok _ (attempt_of_refusal hfetch)).trans rfl⟩
  · exact ⟨d₁.log, bind_of_error _ (attempt_of_fault hfetch)⟩
  · exact ⟨_, (bind_of_ok _ (attempt_of_ok hfetch)).trans rfl⟩
  · rw [mergeWithBase_of_found hfetch, if_pos (hlocked pr rfl)]
    exact ⟨_, rfl⟩

theorem mergeWithBase_of_sent {r : Except Failure PullRequest}
    (hfetch : c.host.pullRequest number s d = (.ok (some pr), d₁)) (hopen : ¬pr.locked = true)
    (hupdate : c.host.updateBranch pr s d₁ = (r, d₂)) :
    ∃ log, c.mergeWithBase number s d = (BaseMerge.sent pr r, { d₂ with log := log }) := by
  rw [mergeWithBase_of_found hfetch, if_neg hopen]
  rcases r with (e | f) | updated
  · exact ⟨_, (bind_of_ok _ (attempt_of_refusal hupdate)).trans rfl⟩
  · exact ⟨d₂.log, bind_of_error _ (attempt_of_fault hupdate)⟩
  · exact ⟨d₂.log, bind_of_ok _ (attempt_of_ok hupdate)⟩

end Coordinator

/-! ## The update -/

namespace Gateway

variable {g : Gateway σ} {number : Int} {s : Scope} {d d₁ d₂ : Desk (Session σ)} {pr : PullRequest}

/-- The request that brings the base branch into a pull request, provided that its head is the expected one. -/
def updateRequest (g : Gateway σ) (pr : PullRequest) : Request :=
  { method := .put
    path := g.pullPath pr.number ++ "/update-branch"
    payload := some (textObject [("expected_head_sha", pr.headSha)]) }

def sendUpdate (g : Gateway σ) (pr : PullRequest) : Act (Session σ) Unit :=
  g.sendOnly (g.updateRequest pr) "github_base_merged" [("pr_number", .int pr.number), ("base", .text pr.baseRef)]

theorem updateBranch_of_refused {f : Failure} (hsend : g.sendUpdate pr s d₁ = (.error f, d₂)) :
    g.updateBranch pr s d₁ = (.error f, d₂) :=
  bind_of_error _ hsend

theorem updateBranch_of_accepted {r : Except Failure (Option PullRequest)} {d₃ : Desk (Session σ)}
    (hsend : g.sendUpdate pr s d₁ = (.ok (), d₂)) (hfetch : g.pullRequest pr.number s d₂ = (r, d₃)) :
    g.updateBranch pr s d₁ = (r.map fun updated => updated.getD pr, d₃) := by
  refine (bind_of_ok _ hsend).trans ?_
  cases r with
  | error f => exact bind_of_error _ hfetch
  | ok updated => exact bind_of_ok _ hfetch

/-- An update that was accepted, after which the host refused to show the pull request. -/
def UpdateLost (g : Gateway σ) (number : Int) (s : Scope) (d : Desk (Session σ)) : Prop :=
  ∃ pr d₁ d₂ d₃ error, g.pullRequest number s d = (.ok (some pr), d₁) ∧ g.sendUpdate pr s d₁ = (.ok (), d₂) ∧
    g.pullRequest pr.number s d₂ = (.error (.host error), d₃)

/-! ## What the outcome tells -/

/-- A command that sends an update. -/
def Puts (c : Command) : Prop :=
  c.method? = some Method.put.name

theorem Looks.not_puts {c : Command} (h : Looks c) : ¬Puts c := by
  rcases h with h | h <;> simp [Puts, h, Method.name]

theorem update_of_puts {events : List StationEvent} {r : Request} {c : Command} {e : CommandEnd}
    (h : ∀ c e, .ran c e ∈ events → c = r.command g.timeLimit ∨ c = g.loginCommand) (hmem : .ran c e ∈ events)
    (hputs : Puts c) : c = r.command g.timeLimit := by
  rcases h c e hmem with hc | rfl
  · exact hc
  · simp [Puts, method?_loginCommand] at hputs

/-- How the end of a base merge goes with what was asked of the station. -/
structure BaseMergeTruthful (g : Gateway σ) (number : Int) (s : Scope) (d : Desk (Session σ))
    (events : List StationEvent) (result : Except Failure BaseMerge) : Prop where
  merged : ∀ m, result = .ok m → m.outcome = .merged → ∃ c e, .ran c e ∈ events ∧ Puts c ∧ e.Accepted
  unsent : ∀ m, result = .ok m → m.outcome = .locked ∨ m.outcome = .notFound → ∀ c e, .ran c e ∈ events → ¬Puts c
  failed : ∀ m, result = .ok m → m.outcome = .failed →
    ((∃ c e, .ran c e ∈ events ∧ Puts c ∧ e.Accepted) ↔ g.UpdateLost number s d)
  head : ∀ c e, .ran c e ∈ events → Puts c →
    ∃ pr, (g.pullRequest number s d).1 = .ok (some pr) ∧ c = (g.updateRequest pr).command g.timeLimit ∧
      c.stdin = some (Json.write (textObject [("expected_head_sha", pr.headSha)]))

variable {events : List StationEvent}

theorem BaseMergeTruthful.of_unsent {r : Except Failure (Option PullRequest)}
    (hfetch : g.pullRequest number s d = (r, d₁)) (hlocked : ∀ pr, r = .ok (some pr) → pr.locked = true)
    (hlooks : ∀ c e, .ran c e ∈ events → Looks c) : g.BaseMergeTruthful number s d events (BaseMerge.unsent r) := by
  have hnone : ∀ c e, .ran c e ∈ events → ¬Puts c := by
    intro c e hmem
    exact (hlooks c e hmem).not_puts
  refine ⟨fun m hm houtcome => ?_, fun _ _ _ => hnone, fun m hm houtcome => ⟨?_, ?_⟩, fun c e hmem hputs => ?_⟩
  · rcases r with (_ | _) | _ | _ <;> cases hm <;> cases houtcome
  · rintro ⟨c, e, hmem, hputs, -⟩
    exact absurd hputs (hnone c e hmem)
  · rintro ⟨pr, d₁', d₂, d₃, error, hfetch', -⟩
    obtain ⟨rfl, rfl⟩ := Prod.mk.inj (hfetch.symm.trans hfetch')
    cases hm
    cases houtcome
  · exact absurd hputs (hnone c e hmem)

theorem BaseMergeTruthful.of_refused {f : Failure} (hfetch : g.pullRequest number s d = (.ok (some pr), d₁))
    (hsend : g.sendUpdate pr s d₁ = (.error f, d₂))
    (hputs : ∀ c e, .ran c e ∈ events → Puts c → c = (g.updateRequest pr).command g.timeLimit)
    (hrefused : ∀ error, f = .host error → ∀ c e, .ran c e ∈ events → Puts c → ¬e.Accepted) :
    g.BaseMergeTruthful number s d events (BaseMerge.sent pr (.error f)) := by
  refine ⟨fun m hm houtcome => ?_, fun m hm houtcome => ?_, fun m hm houtcome => ⟨?_, ?_⟩, fun c e hmem hput => ?_⟩
  · cases f <;> cases hm
    cases houtcome
  · cases f <;> cases hm
    rcases houtcome with houtcome | houtcome <;> cases houtcome
  · rintro ⟨c, e, hmem, hput, haccepted⟩
    cases f with
    | host error => exact absurd haccepted (hrefused error rfl c e hmem hput)
    | fault fault => cases hm
  · rintro ⟨pr', d₁', d₂', d₃, error, hfetch', hsend', -⟩
    obtain ⟨hpr, rfl⟩ := Prod.mk.inj (hfetch.symm.trans hfetch')
    obtain rfl := Option.some.inj (Except.ok.inj hpr)
    rw [hsend] at hsend'
    cases hsend'
  · obtain rfl := hputs c e hmem hput
    exact ⟨pr, by rw [hfetch], rfl, rfl⟩

theorem BaseMergeTruthful.of_accepted {r : Except Failure (Option PullRequest)} {d₃ : Desk (Session σ)}
    (hfetch : g.pullRequest number s d = (.ok (some pr), d₁)) (hsend : g.sendUpdate pr s d₁ = (.ok (), d₂))
    (hagain : g.pullRequest pr.number s d₂ = (r, d₃))
    (hputs : ∀ c e, .ran c e ∈ events → Puts c → c = (g.updateRequest pr).command g.timeLimit)
    (haccepted : ∃ c e, .ran c e ∈ events ∧ Puts c ∧ e.Accepted) :
    g.BaseMergeTruthful number s d events (BaseMerge.sent pr (r.map fun updated => updated.getD pr)) := by
  refine ⟨fun _ _ _ => haccepted, fun m hm houtcome => ?_, fun m hm houtcome => ⟨fun _ => ?_, fun _ => haccepted⟩,
    fun c e hmem hput => ?_⟩
  · rcases r with (_ | _) | _ <;> cases hm <;> rcases houtcome with houtcome | houtcome <;> cases houtcome
  · rcases r with (error | _) | _ <;> cases hm
    · exact ⟨pr, d₁, d₂, d₃, error, hfetch, hsend, hagain⟩
    · cases houtcome
  · obtain rfl := hputs c e hmem hput
    exact ⟨pr, by rw [hfetch], rfl, rfl⟩

theorem mergeWithBase_recorded (g : Gateway σ) (limit : Nat) (repo : RepoSettings) (number : Int) (s : Scope)
    {d : Desk (Session σ)} {D : Desk (Session (Recorded σ))} (hD : d.Recorded D) :
    ((Coordinator.mk (g.recorded.host limit) repo).mergeWithBase number s D).1 =
        ((Coordinator.mk (g.host limit) repo).mergeWithBase number s d).1 ∧
      ∃ events, ((Coordinator.mk (g.recorded.host limit) repo).mergeWithBase number s D).2.world.world.events =
          D.world.world.events ++ events ∧
        g.BaseMergeTruthful number s d events ((Coordinator.mk (g.host limit) repo).mergeWithBase number s d).1 := by
  rcases hfetch : g.pullRequest number s d with ⟨r, d₁⟩
  obtain ⟨D₁, before, hfetch', hD₁, hevents₁, hbefore⟩ := pullRequest_recorded hD hfetch
  by_cases hunsent : ∀ pr, r = .ok (some pr) → pr.locked = true
  · obtain ⟨log, hmerge⟩ := (Coordinator.mk (g.host limit) repo).mergeWithBase_of_unsent hfetch hunsent
    obtain ⟨log', hmerge'⟩ := (Coordinator.mk (g.recorded.host limit) repo).mergeWithBase_of_unsent hfetch' hunsent
    rw [hmerge, hmerge']
    exact ⟨rfl, before, hevents₁, .of_unsent hfetch hunsent hbefore⟩
  · obtain ⟨pr, rfl, hopen⟩ : ∃ pr, r = .ok (some pr) ∧ ¬pr.locked = true := by simpa using hunsent
    rcases hsend : g.sendUpdate pr s d₁ with ⟨answer, d₂⟩
    obtain ⟨D₂, during, hsend', hD₂, hevents₂, hduring, haccepted, hrefused⟩ := sendOnly_recorded hD₁ hsend
    change g.recorded.sendUpdate pr s D₁ = _ at hsend'
    rcases answer with f | ⟨⟩
    · obtain ⟨log, hmerge⟩ := (Coordinator.mk (g.host limit) repo).mergeWithBase_of_sent hfetch hopen
        (updateBranch_of_refused hsend)
      obtain ⟨log', hmerge'⟩ := (Coordinator.mk (g.recorded.host limit) repo).mergeWithBase_of_sent hfetch' hopen
        (updateBranch_of_refused hsend')
      rw [hmerge, hmerge']
      have hupdate : ∀ c e, .ran c e ∈ before ++ during → Puts c →
          c = (g.updateRequest pr).command g.timeLimit ∧ .ran c e ∈ during := by
        intro c e hmem hputs
        rcases List.mem_append.mp hmem with hmem | hmem
        · exact absurd hputs (hbefore c e hmem).not_puts
        · exact ⟨update_of_puts hduring hmem hputs, hmem⟩
      refine ⟨rfl, before ++ during, ?_, .of_refused hfetch hsend (fun c e hmem hputs => (hupdate c e hmem hputs).1) ?_⟩
      · change D₂.world.world.events = _
        rw [hevents₂, hevents₁, List.append_assoc]
      · rintro error rfl c e hmem hputs
        obtain ⟨rfl, hmem⟩ := hupdate c e hmem hputs
        exact hrefused error rfl e hmem
    · rcases hagain : g.pullRequest pr.number s d₂ with ⟨updated, d₃⟩
      obtain ⟨D₃, after, hagain', hD₃, hevents₃, hafter⟩ := pullRequest_recorded hD₂ hagain
      obtain ⟨log, hmerge⟩ := (Coordinator.mk (g.host limit) repo).mergeWithBase_of_sent hfetch hopen
        (updateBranch_of_accepted hsend hagain)
      obtain ⟨log', hmerge'⟩ := (Coordinator.mk (g.recorded.host limit) repo).mergeWithBase_of_sent hfetch' hopen
        (updateBranch_of_accepted hsend' hagain')
      rw [hmerge, hmerge']
      refine ⟨rfl, before ++ during ++ after, ?_, .of_accepted hfetch hsend hagain (fun c e hmem hputs => ?_) ?_⟩
      · change D₃.world.world.events = _
        rw [hevents₃, hevents₂, hevents₁]
        simp only [List.append_assoc]
      · rcases List.mem_append.mp hmem with hmem | hmem
        · rcases List.mem_append.mp hmem with hmem | hmem
          · exact absurd hputs (hbefore c e hmem).not_puts
          · exact update_of_puts hduring hmem hputs
        · exact absurd hputs (hafter c e hmem).not_puts
      · obtain ⟨e, hmem, hyes⟩ := haccepted rfl
        exact ⟨(g.updateRequest pr).command g.timeLimit, e, by simp [hmem], method?_command _ _, hyes⟩

/-- What bringing the base into a pull request asks of the station, in order. -/
def baseMergeTrace (g : Gateway σ) (limit : Nat) (repo : RepoSettings) (number : Int) (s : Scope)
    (d : Desk (Session σ)) : List StationEvent :=
  ((Coordinator.mk (g.recorded.host limit) repo).mergeWithBase number s d.onRecord).2.world.world.events

/-- **Base merges are reported truthfully**, but for an update that was accepted and could not be seen afterwards. -/
theorem mergeWithBase_truthful (g : Gateway σ) (limit : Nat) (repo : RepoSettings) (number : Int) (s : Scope)
    (d : Desk (Session σ)) :
    g.BaseMergeTruthful number s d (g.baseMergeTrace limit repo number s d)
      ((Coordinator.mk (g.host limit) repo).mergeWithBase number s d).1 := by
  obtain ⟨-, events, hevents, htruthful⟩ :=
    mergeWithBase_recorded g limit repo number s (d := d) (D := d.onRecord) ⟨⟨rfl, rfl⟩, rfl⟩
  have htrace : g.baseMergeTrace limit repo number s d = events := hevents.trans (List.nil_append _)
  rw [htrace]
  exact htruthful

/-- A server that accepts the update of a pull request and fails afterwards. -/
def failingLater : Script where
  routes := [
    ("GET /repos/o/r/pulls/7",
      [.exited 0 "HTTP/2.0 200 OK\n\n\x7b\"number\": 7, \"head\": \x7b\"sha\": \"abc\"\x7d, \"base\": \x7b\x7d\x7d" "",
        .exited 1 "HTTP/2.0 500 Internal Server Error\n\n" ""]),
    ("PUT /repos/o/r/pulls/7/update-branch", [.exited 0 "HTTP/2.0 202 Accepted\n\n" ""])]
  fallback := .timedOut
  otherwise := .exited 0 "" ""
  clock := default

def impatientGateway : Gateway Script :=
  { station := Script.station, owner := "o", name := "r", maxAttempts := 1 }

def ownRepo : RepoSettings :=
  { owner := "o", name := "r" }

/-- The method of a request that was sent, with the status of the reply. -/
def answered? : StationEvent → Option (Option String × Option Int)
  | .ran c e => some (c.method?, e.reply?.map Exchange.status)
  | .paused _ => none

/-- An accepted update that is reported as failed. -/
theorem accepted_update_reported_failed :
    ((Coordinator.mk (impatientGateway.host 1) ownRepo).mergeWithBase 7 {} ⟨⟨failingLater, []⟩, #[]⟩).1.toOption.map
        BaseMerge.outcome = some .failed ∧
      (impatientGateway.baseMergeTrace 1 ownRepo 7 {} ⟨⟨failingLater, []⟩, #[]⟩).map answered? =
        [some (some "GET", some 200), some (some "PUT", some 202), some (some "GET", some 500), some (none, none)] := by
  decide +kernel

end Gateway

end RunSteward
