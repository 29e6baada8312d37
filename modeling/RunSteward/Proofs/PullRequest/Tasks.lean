import RunSteward.Proofs.Gateway.Audit
import RunSteward.PullRequest.Merge

/-!
# What became of a task

Merging, labelling, commenting, closing and reporting come down to one write each, and answer yes or no. The answer is
yes exactly if the write was accepted, if none was needed, or if a label was to be removed that is not there
(`Coordinator.Task.truthful`). A refusal of the host never gets through to who asked. What does get through is a reply
that exceeds the limits of the reader, even if it accepts the write (`Coordinator.Task.acceptance_breaks_off`).
-/

namespace RunSteward

open Act

variable {σ : Type}

namespace Coordinator

/-! ## Answers -/

/-- What a task answers, given how its write ended. Where a missing resource is as good as a removed one the task is
forgiving. -/
def answer (forgiving : Bool) : Except Failure Bool → Except Failure Bool
  | .ok yes => .ok yes
  | .error (.host e) => .ok (forgiving && decide (e.kind = .notFound))
  | .error (.fault f) => .error (.fault f)

variable {c : Coordinator σ} {pr : PullRequest} {s : Scope} {d d' : Desk σ}

theorem tryTo_apply (operation : String) (number : Int) (forgiving : Bool) {x : Act σ Unit} {r : Except Failure Unit}
    (hx : x s d = (r, d')) :
    ∃ log, tryTo operation number forgiving x s d = (answer forgiving (r.map fun _ => true), { d' with log := log }) := by
  rcases r with (e | f) | _
  · by_cases hfine : forgiving = true ∧ e.kind = .notFound
    · refine ⟨d'.log, (bind_of_ok _ (attempt_of_refusal hx)).trans ?_⟩
      simp only [if_pos hfine]
      simp [answer, Except.map, hfine.1, hfine.2]
    · obtain ⟨log, hnote⟩ : ∃ log, noteFailure operation number e s d' = (.ok (), { d' with log := log }) := ⟨_, rfl⟩
      refine ⟨log, (bind_of_ok _ (attempt_of_refusal hx)).trans ?_⟩
      simp only [if_neg hfine]
      rw [bind_of_ok _ hnote]
      simpa [answer, Except.map] using hfine
  · exact ⟨d'.log, bind_of_error _ (attempt_of_fault hx)⟩
  · exact ⟨d'.log, bind_of_ok _ (attempt_of_ok hx)⟩

theorem tryCreate_apply (operation : String) (number : Int) {x : Act σ Bool} {r : Except Failure Bool}
    (hx : x s d = (r, d')) : ∃ log, tryCreate operation number x s d = (answer false r, { d' with log := log }) := by
  rcases r with (e | f) | yes
  · exact ⟨_, (bind_of_ok _ (attempt_of_refusal hx)).trans rfl⟩
  · exact ⟨d'.log, bind_of_error _ (attempt_of_fault hx)⟩
  · exact ⟨d'.log, bind_of_ok _ (attempt_of_ok hx)⟩

/-- A head that has moved is noted under another name than the other refusals, and answered in the same way. -/
theorem mergeIntoBase_apply {r : Except Failure Bool}
    (hx : c.host.merge pr ⟨pr.title, pr.body, pr.headSha, mergeMethod⟩ s d = (r, d')) :
    ∃ log, c.mergeIntoBase pr s d = (answer false r, { d' with log := log }) := by
  rcases r with (e | f) | yes
  · have hnotes : ∀ x : Act σ Unit, Notes x () → Notes (x >>= fun _ => pure false) false :=
      fun x hx => hx.bind (notes_pure false)
    by_cases hconflict : e.kind = .conflict
    · obtain ⟨log, hnote⟩ := hnotes _ (notes_record _ _ _) s d'
      refine ⟨log, (bind_of_ok _ (attempt_of_refusal hx)).trans ?_⟩
      simp only [if_pos hconflict]
      exact hnote
    · obtain ⟨log, hnote⟩ := hnotes _ (notes_record _ _ _) s d'
      refine ⟨log, (bind_of_ok _ (attempt_of_refusal hx)).trans ?_⟩
      simp only [if_neg hconflict]
      exact hnote
  · exact ⟨d'.log, bind_of_error _ (attempt_of_fault hx)⟩
  · exact ⟨d'.log, bind_of_ok _ (attempt_of_ok hx)⟩

/-! ## Tasks -/

/-- What a coordinator is asked to do about a pull request, bringing the base in aside. -/
inductive Task where
  | merge
  | label (name : String)
  | unlabel (name : String)
  | comment (body : String)
  | close
  | reportSuccess (context description : String)
  | reportFailure (context description : String)
  | askForAction (name title summary : String)

namespace Task

def run (c : Coordinator σ) (pr : PullRequest) : Task → Act σ Bool
  | merge => c.mergeIntoBase pr
  | label name => c.labelAs pr name
  | unlabel name => c.removeLabelFrom pr name
  | comment body => c.addComment pr body
  | close => c.close pr
  | reportSuccess context description => c.createStatusForSuccess pr context description
  | reportFailure context description => c.createStatusForFailure pr context description
  | askForAction name title summary => c.createActionRequired pr name title summary

/-- The write that a task comes down to. -/
def write (repo : RepoSettings) (pr : PullRequest) : Task → Write
  | merge => .merge pr ⟨pr.title, pr.body, pr.headSha, "squash"⟩
  | label name => .addLabel pr name
  | unlabel name => .removeLabel pr name
  | comment body => .addComment pr body
  | close => .close pr.number
  | reportSuccess context description =>
    .createStatus ⟨pr.headSha, "success", repo.statusTargetUrl, description, context⟩
  | reportFailure context description =>
    .createStatus ⟨pr.headSha, "failure", repo.statusTargetUrl, description, context⟩
  | askForAction name title summary =>
    .createCheckRun ⟨name, pr.headSha, "completed", "action_required", title, summary⟩

/-- A task that is done already: the pull request carries the label, but for case and blanks around it, or is closed. -/
def Needless (pr : PullRequest) : Task → Prop
  | label name => ∃ l ∈ pr.labels, Text.lower (Text.trim l) = Text.lower (Text.trim name)
  | close => pr.state = "closed"
  | _ => False

/-- A reply from which it follows that a task is done: one of success within the limits, which for a merge has to say so
in its body. -/
def DoneBy (t : Task) (nesting : Nat) (x : Exchange) : Prop :=
  x.Succeeded ∧ ∃ payload, Json.read nesting x.body = .ok payload ∧
    (t = merge → ∃ members, payload = some (.object members) ∧ Json.get members "merged" = .bool true)

/-- Tells whether a task is done as well where what it is about is missing. -/
def forgiving : Task → Bool
  | unlabel _ => true
  | _ => false

/-- What a task makes of the payload that its write is accepted with. -/
def confirms (t : Task) (payload : Option Json) : Bool :=
  match t with
  | merge => Gateway.saysMerged payload
  | _ => true

variable {t : Task}

theorem hasLabel_iff {name : String} : pr.hasLabel name = true ↔ (label name).Needless pr := by
  simp [PullRequest.hasLabel, PullRequest.labelKey, Needless]

theorem saysMerged_iff {payload : Option Json} : Gateway.saysMerged payload = true ↔
    ∃ members, payload = some (.object members) ∧ Json.get members "merged" = .bool true := by
  rcases payload with _ | v
  · simp [Gateway.saysMerged]
  · cases v with
    | object members => cases hmerged : Json.get members "merged" <;> simp [Gateway.saysMerged, Payload.inner, hmerged]
    | _ => simp [Gateway.saysMerged, Payload.inner]

theorem doneBy_iff {nesting : Nat} {x : Exchange} : t.DoneBy nesting x ↔
    x.Succeeded ∧ ∃ payload, Json.read nesting x.body = .ok payload ∧ t.confirms payload = true := by
  cases t <;> simp [DoneBy, confirms, saysMerged_iff]

theorem run_needless (h : t.Needless pr) : t.run c pr s d = (.ok true, d) := by
  cases t with
  | label name =>
    rw [run, labelAs, if_pos (hasLabel_iff.mpr h)]
    rfl
  | close =>
    rw [run, Coordinator.close, if_pos (by simpa [Needless] using h)]
    rfl
  | _ => cases h

end Task

end Coordinator

/-! ## Tasks at a gateway -/

namespace CommandEnd

/-- An attempt that was answered beyond the limits where it is read: in the reason for a refusal, or in the reply that
accepts a write. -/
def Overflows (e : CommandEnd) (nesting : Nat) (f : Fault) : Prop :=
  e.Unexplained nesting f ∨ ∃ x, e.reply? = some x ∧ x.Succeeded ∧ Json.read nesting x.body = .error f

end CommandEnd

namespace Gateway

variable {g : Gateway σ} {r : Except Failure Exchange}

theorem echo_eq_ok {payload : Option Json} :
    r >>= g.echo = .ok payload ↔ ∃ x, r = .ok x ∧ Json.read g.nesting x.body = .ok payload := by
  rcases r with f | x
  · simp [bind, Except.bind]
  · cases hread : Json.read g.nesting x.body <;> simp [bind, Except.bind, echo, Except.mapError, hread]

theorem echo_eq_refusal {e : HostError} : r >>= g.echo = .error (.host e) ↔ r = .error (.host e) := by
  rcases r with f | x
  · simp [bind, Except.bind]
  · cases hread : Json.read g.nesting x.body <;> simp [bind, Except.bind, echo, Except.mapError, hread]

theorem echo_eq_fault {f : Fault} : r >>= g.echo = .error (.fault f) ↔
    r = .error (.fault f) ∨ ∃ x, r = .ok x ∧ Json.read g.nesting x.body = .error f := by
  rcases r with failure | x
  · simp [bind, Except.bind]
  · cases hread : Json.read g.nesting x.body <;> simp [bind, Except.bind, echo, Except.mapError, hread]

end Gateway

namespace Coordinator.Task

open Gateway

variable {g : Gateway σ} {limit : Nat} {repo : RepoSettings} {pr : PullRequest} {t : Task} {s : Scope}
  {d : Desk (Session σ)}

/-- The request that a task sends. -/
def request (g : Gateway σ) (repo : RepoSettings) (pr : PullRequest) (t : Task) : Request :=
  (t.write repo pr).request g

theorem tryTo_sendOnly (operation : String) (number : Int) (forgiving : Bool) (r : Request) (event : String)
    (fields : LogFields) (s : Scope) (d : Desk (Session σ)) :
    ∃ log, tryTo operation number forgiving (g.sendOnly r event fields) s d =
      (answer forgiving (((g.request r s d).1 >>= g.echo).map fun _ => true),
        { (g.request r s d).2 with log := log }) := by
  obtain ⟨log, hsend⟩ := sendOnly_apply g r event fields s d
  obtain ⟨log', htry⟩ := tryTo_apply operation number forgiving hsend
  refine ⟨log', htry.trans ?_⟩
  cases (g.request r s d).1 >>= g.echo <;> rfl

theorem tryCreate_sendOnly (operation : String) (number : Int) (r : Request) (event : String) (fields : LogFields)
    (s : Scope) (d : Desk (Session σ)) :
    ∃ log, tryCreate operation number (do g.sendOnly r event fields; return true) s d =
      (answer false (((g.request r s d).1 >>= g.echo).map fun _ => true),
        { (g.request r s d).2 with log := log }) := by
  obtain ⟨log, hsend⟩ := sendOnly_apply g r event fields s d
  have hcreate : (do g.sendOnly r event fields; return true) s d =
      (((g.request r s d).1 >>= g.echo).map fun _ => true, { (g.request r s d).2 with log := log }) := by
    rcases hecho : (g.request r s d).1 >>= g.echo with f | x <;> rw [hecho] at hsend
    · exact bind_of_error _ hsend
    · exact bind_of_ok _ hsend
  obtain ⟨log', htry⟩ := tryCreate_apply operation number hcreate
  exact ⟨log', htry⟩

/-- A task that is not needless answers by how its request ended and what it was accepted with, and only the log tells
more. -/
theorem run_of_request (g : Gateway σ) (limit : Nat) (repo : RepoSettings) (s : Scope) (d : Desk (Session σ))
    (h : ¬t.Needless pr) :
    ∃ log, t.run ⟨g.host limit, repo⟩ pr s d =
      (answer t.forgiving (((g.request (t.request g repo pr) s d).1 >>= g.echo).map t.confirms),
        { (g.request (t.request g repo pr) s d).2 with log := log }) := by
  cases t with
  | merge =>
    obtain ⟨log, hsend⟩ := send_apply g (request g repo pr merge) "github_pr_merged"
      [("pr_number", .int pr.number), ("merge_method", .text "squash")] s d
    have hmerge : g.merge pr ⟨pr.title, pr.body, pr.headSha, mergeMethod⟩ s d =
        (((g.request (request g repo pr merge) s d).1 >>= g.echo).map saysMerged,
          { (g.request (request g repo pr merge) s d).2 with log := log }) := by
      rcases hecho : (g.request (request g repo pr merge) s d).1 >>= g.echo with f | x <;> rw [hecho] at hsend
      · exact bind_of_error _ hsend
      · exact bind_of_ok _ hsend
    obtain ⟨log', hanswer⟩ := mergeIntoBase_apply (c := ⟨g.host limit, repo⟩) hmerge
    exact ⟨log', hanswer⟩
  | label name =>
    have hadd : run ⟨g.host limit, repo⟩ pr (label name) =
        tryTo "add_label" pr.number false (g.addLabel pr name) := by
      rw [run, labelAs, if_neg (mt hasLabel_iff.mp h)]
      rfl
    rw [hadd]
    exact tryTo_sendOnly _ _ _ _ _ _ s d
  | close =>
    have hclose : run ⟨g.host limit, repo⟩ pr close = tryTo "close" pr.number false (g.close pr.number) := by
      rw [run, Coordinator.close, if_neg (by simpa [Needless] using h)]
      rfl
    rw [hclose]
    exact tryTo_sendOnly _ _ _ _ _ _ s d
  | unlabel name => exact tryTo_sendOnly _ _ _ _ _ _ s d
  | comment body => exact tryTo_sendOnly _ _ _ _ _ _ s d
  | reportSuccess context description => exact tryCreate_sendOnly _ _ _ _ _ s d
  | reportFailure context description => exact tryCreate_sendOnly _ _ _ _ _ s d
  | askForAction name title summary => exact tryCreate_sendOnly _ _ _ _ _ s d

/-- What a task asks of the station, in order. -/
def trace (g : Gateway σ) (limit : Nat) (repo : RepoSettings) (pr : PullRequest) (t : Task) (s : Scope)
    (d : Desk (Session σ)) : List StationEvent :=
  (t.run ⟨g.recorded.host limit, repo⟩ pr s d.onRecord).2.world.world.events

theorem trace_of_needless (h : t.Needless pr) : t.trace g limit repo pr s d = [] := by
  rw [trace, run_needless h]
  rfl

theorem trace_of_request (h : ¬t.Needless pr) :
    t.trace g limit repo pr s d = g.trace (t.request g repo pr) s d := by
  obtain ⟨log, hrun⟩ := run_of_request g.recorded limit repo s d.onRecord h
  rw [trace, hrun]
  cases t <;> rfl

/-- How the answer of a task goes with what was asked of the station. -/
structure Truthful (g : Gateway σ) (repo : RepoSettings) (pr : PullRequest) (t : Task) (s : Scope)
    (d : Desk (Session σ)) (events : List StationEvent) (result : Except Failure Bool) : Prop where
  contained : ∀ e, result ≠ .error (.host e)
  unsent : t.Needless pr → events = []
  sent : ¬t.Needless pr → events = g.trace (t.request g repo pr) s d
  once : ∀ c e, .ran c e ∈ events → c = (t.request g repo pr).command g.timeLimit ∨ c = g.loginCommand
  yes : result = .ok true ↔ (t.Needless pr ∧ events = []) ∨
    ∃ e, .ran ((t.request g repo pr).command g.timeLimit) e ∈ events ∧
      ((∃ x, e.reply? = some x ∧ t.DoneBy g.nesting x) ∨ ((∃ name, t = unlabel name) ∧ e.Missing g.nesting))
  broken : ∀ f, Json.Limit f → (result = .error (.fault f) ↔
    ∃ e, .ran ((t.request g repo pr).command g.timeLimit) e ∈ events ∧ e.Overflows g.nesting f)
  squash : t = merge → ∀ c e, .ran c e ∈ events → c.method?.isSome = true → c.stdin = some (Json.write (textObject
    [("commit_title", pr.title), ("commit_message", pr.body), ("sha", pr.headSha), ("merge_method", "squash")]))

/-- The answer to a request that was sent is yes exactly if it was accepted and says so, or where that is forgiven, if
there is nothing to send it to. -/
theorem answer_eq_yes {r : Request} :
    answer t.forgiving (((g.request r s d).1 >>= g.echo).map t.confirms) = .ok true ↔
      ∃ e, .ran (r.command g.timeLimit) e ∈ g.trace r s d ∧
        ((∃ x, e.reply? = some x ∧ t.DoneBy g.nesting x) ∨ ((∃ name, t = unlabel name) ∧ e.Missing g.nesting)) := by
  have haccepted : (∃ payload, (g.request r s d).1 >>= g.echo = .ok payload ∧ t.confirms payload = true) ↔
      ∃ e, .ran (r.command g.timeLimit) e ∈ g.trace r s d ∧ ∃ x, e.reply? = some x ∧ t.DoneBy g.nesting x := by
    constructor
    · rintro ⟨payload, hecho, hyes⟩
      obtain ⟨x, hx, hread⟩ := echo_eq_ok.mp hecho
      obtain ⟨e, hmem, hreply, hsucceeded⟩ := ((trace_told g r s d).accepted x).mp hx
      exact ⟨e, hmem, x, hreply, doneBy_iff.mpr ⟨hsucceeded, payload, hread, hyes⟩⟩
    · rintro ⟨e, hmem, x, hreply, hdone⟩
      obtain ⟨hsucceeded, payload, hread, hyes⟩ := doneBy_iff.mp hdone
      have hx := ((trace_told g r s d).accepted x).mpr ⟨e, hmem, hreply, hsucceeded⟩
      exact ⟨payload, echo_eq_ok.mpr ⟨x, hx, hread⟩, hyes⟩
  have hmissing := (request_course g r s d).missing (by simp)
  have hforgiving : t.forgiving = true ↔ ∃ name, t = unlabel name := by cases t <;> simp [forgiving]
  have hcases : answer t.forgiving (((g.request r s d).1 >>= g.echo).map t.confirms) = .ok true ↔
      (∃ payload, (g.request r s d).1 >>= g.echo = .ok payload ∧ t.confirms payload = true) ∨
        (t.forgiving = true ∧ ∃ e, (g.request r s d).1 >>= g.echo = .error (.host e) ∧ e.kind = .notFound) := by
    rcases (g.request r s d).1 >>= g.echo with (e | f) | x <;> simp [answer, Except.map]
  simp only [echo_eq_refusal] at hcases
  rw [hcases, haccepted, hmissing, hforgiving]
  constructor
  · rintro (⟨e, hmem, hdone⟩ | ⟨hname, e, hmem, hgone⟩)
    · exact ⟨e, hmem, .inl hdone⟩
    · exact ⟨e, hmem, .inr ⟨hname, hgone⟩⟩
  · rintro ⟨e, hmem, hdone | ⟨hname, hgone⟩⟩
    · exact .inl ⟨e, hmem, hdone⟩
    · exact .inr ⟨hname, e, hmem, hgone⟩

/-- A request that was sent breaks off over a limit exactly if it was answered beyond the limit. -/
theorem answer_eq_fault {r : Request} {f : Fault} (hlimit : Json.Limit f) :
    answer t.forgiving (((g.request r s d).1 >>= g.echo).map t.confirms) = .error (.fault f) ↔
      ∃ e, .ran (r.command g.timeLimit) e ∈ g.trace r s d ∧ e.Overflows g.nesting f := by
  have hpause : f ≠ .pauseUnreadable := by
    rintro rfl
    cases hlimit
  have hbroken : (g.request r s d).1 = .error (.fault f) ↔
      ∃ e, .ran (r.command g.timeLimit) e ∈ g.trace r s d ∧ e.Unexplained g.nesting f := by
    simpa [CommandEnd.Breaks, hpause] using (trace_told g r s d).broken f (.inr hlimit)
  have hcases : answer t.forgiving (((g.request r s d).1 >>= g.echo).map t.confirms) = .error (.fault f) ↔
      (g.request r s d).1 >>= g.echo = .error (.fault f) := by
    rcases (g.request r s d).1 >>= g.echo with (e | f) | x <;> simp [answer, Except.map]
  rw [hcases, echo_eq_fault, hbroken]
  constructor
  · rintro (⟨e, hmem, hunexplained⟩ | ⟨x, hx, hread⟩)
    · exact ⟨e, hmem, .inl hunexplained⟩
    · obtain ⟨e, hmem, hreply, hsucceeded⟩ := ((trace_told g r s d).accepted x).mp hx
      exact ⟨e, hmem, .inr ⟨x, hreply, hsucceeded, hread⟩⟩
  · rintro ⟨e, hmem, hunexplained | ⟨x, hreply, hsucceeded, hread⟩⟩
    · exact .inl ⟨e, hmem, hunexplained⟩
    · exact .inr ⟨x, ((trace_told g r s d).accepted x).mpr ⟨e, hmem, hreply, hsucceeded⟩, hread⟩

/-- **Tasks answer truthfully.** No refusal gets through. A task sends its one write, or none if it is needless, and the
answer is yes exactly if the write was accepted, if it was needless, or if the label to be removed is not there. Instead
of answering it breaks off exactly if the write was answered beyond the limits. A merge names the head that it was asked
for, and squashes. -/
theorem truthful (g : Gateway σ) (limit : Nat) (repo : RepoSettings) (pr : PullRequest) (t : Task) (s : Scope)
    (d : Desk (Session σ)) :
    Truthful g repo pr t s d (t.trace g limit repo pr s d) (t.run ⟨g.host limit, repo⟩ pr s d).1 := by
  by_cases hneedless : t.Needless pr
  · rw [trace_of_needless hneedless, run_needless hneedless]
    exact ⟨by simp, fun _ => rfl, fun h => absurd hneedless h, by simp, by simp [hneedless], by simp, by simp⟩
  · obtain ⟨log, hrun⟩ := run_of_request g limit repo s d hneedless
    rw [trace_of_request hneedless, hrun]
    have htold := trace_told g (t.request g repo pr) s d
    refine ⟨fun e => ?_, fun h => absurd h hneedless, fun _ => rfl, htold.commands, ?_, fun f => answer_eq_fault, ?_⟩
    · rcases (g.request (t.request g repo pr) s d).1 >>= g.echo with (e | f) | x <;> simp [answer, Except.map]
    · rw [answer_eq_yes]
      simp [hneedless]
    · rintro rfl c e hmem hmethod
      rcases htold.commands c e hmem with rfl | rfl
      · rfl
      · rw [method?_loginCommand] at hmethod
        cases hmethod

/-! ## A reply that nobody expects -/

/-- A gateway whose commands all print a success and a long row of digits. -/
def createdGateway : Gateway Unit :=
  printing (digitPrint Exchange.createdCode)

def discussed : PullRequest :=
  { number := 7 }

/-- A comment that was accepted, and that nobody is told of, because of what stands in the reply. -/
theorem acceptance_breaks_off :
    (∃ e, .ran (((comment "hi").request createdGateway { owner := "o", name := "r" } discussed).command
          createdGateway.timeLimit) e ∈
        (comment "hi").trace createdGateway 1 { owner := "o", name := "r" } discussed {} ⟨⟨(), []⟩, #[]⟩ ∧ e.Accepted) ∧
      ((comment "hi").run ⟨createdGateway.host 1, { owner := "o", name := "r" }⟩ discussed {} ⟨⟨(), []⟩, #[]⟩).1 =
        .error (.fault .numeralTooLong) := by
  have hneeded : ¬(comment "hi").Needless discussed := not_false
  have hread : Exchange.read (digitPrint Exchange.createdCode) = _ := read_digitPrint (by decide)
  have hx : Exchange.Succeeded ⟨Exchange.createdCode.value, [], String.ofList (Json.ones Text.digitLimit)⟩ :=
    .inl (by decide)
  have hrequest : (createdGateway.request ((comment "hi").request createdGateway { owner := "o", name := "r" } discussed)
      {} ⟨⟨(), []⟩, #[]⟩).1 = .ok _ := request_printing hread hx _ _
  constructor
  · rw [trace_of_request hneeded]
    obtain ⟨e, hmem, hreply, hsucceeded⟩ := ((trace_told _ _ _ _).accepted _).mp hrequest
    exact ⟨e, hmem, _, hreply, hsucceeded⟩
  · obtain ⟨log, hrun⟩ := run_of_request createdGateway 1 { owner := "o", name := "r" } {} ⟨⟨(), []⟩, #[]⟩ hneeded
    have hecho : createdGateway.echo ⟨Exchange.createdCode.value, [], String.ofList (Json.ones Text.digitLimit)⟩ =
        .error (.fault .numeralTooLong) := by
      rw [echo, Json.read_ones (Nat.le_refl _)]
      rfl
    have hbind : ∀ x, (Except.ok x : Except Failure Exchange) >>= createdGateway.echo = createdGateway.echo x :=
      fun _ => rfl
    rw [hrun, hrequest, hbind, hecho]
    rfl

end Coordinator.Task

end RunSteward
