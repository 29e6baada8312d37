import RunSteward.Command.Script
import RunSteward.Proofs.Governance.RepoTag
import RunSteward.Proofs.Steward.Containment

/-!
# Tagged calls

A steward makes two calls for its repository, a pass and a summary. Whatever the gateway meets on the way, each line
that is written in the course of a call is tagged with the repository, and when the call has ended, with a result or a
failure, every thread works for what it worked for before (`Steward.calls_tagged`).
-/

namespace RunSteward

open Act

variable {σ : Type}

/-! ## Milestones and branches -/

theorem Milestone.noteAllUnreadable_loyal (milestones : List Milestone) :
    Loyal (Milestone.noteAllUnreadable milestones : Act σ Unit) := by
  apply loyal_forM
  intro m
  unfold Milestone.noteUnreadable
  split
  · exact loyal_record _ _ _
  · exact loyal_pure ()

theorem resolveMainline_loyal (current : Version) (milestones : List Milestone) :
    Loyal (resolveMainline (σ := σ) current milestones) :=
  Loyal.bind (Milestone.noteAllUnreadable_loyal _) fun _ => loyal_orHalt _

namespace Host

variable {host : Host σ}

theorem openMilestones_loyal (h : host.Loyal) : Act.Loyal host.openMilestones := by
  refine Loyal.bind (gather_loyal h .milestones) fun gathered => ?_
  rcases gathered with ⟨items, _ | e⟩
  · exact Loyal.noted (loyal_pure _)
  · apply Loyal.noted
    exact Loyal.noted (loyal_pure _)

theorem judge_loyal (k : Classifier) (milestones : List Milestone) (b : Branch) :
    Act.Loyal (judge k milestones b : Act σ Bool) := by
  unfold judge
  split
  · exact Loyal.bind (Milestone.noteAllUnreadable_loyal _) fun _ => loyal_orHalt _
  · exact loyal_orHalt _

theorem judgeAll_loyal (k : Classifier) (milestones : List Milestone) (branches : List Branch) :
    Act.Loyal (judgeAll k milestones branches : Act σ (List Branch)) := by
  induction branches with
  | nil => exact loyal_pure _
  | cons b branches ih =>
    exact Loyal.bind (judge_loyal k milestones b) fun _ => Loyal.bind ih fun _ => loyal_pure _

theorem activeBranches_loyal (h : host.Loyal) (k : Classifier) (milestones : List Milestone) :
    Act.Loyal (host.activeBranches k milestones) := by
  refine Loyal.bind (gather_loyal h .branches) fun gathered => ?_
  rcases gathered with ⟨items, _ | e⟩
  · refine Loyal.bind (judgeAll_loyal k milestones items) fun _ => ?_
    exact Loyal.noted (loyal_pure _)
  · apply Loyal.noted
    refine Loyal.bind (judgeAll_loyal k milestones items) fun _ => ?_
    exact Loyal.noted (loyal_pure _)

end Host

theorem RepoSettings.fullName_ne (r : RepoSettings) : r.fullName ≠ "" := by
  intro h
  have hslash : '/' ∈ r.fullName.toList := by simp [RepoSettings.fullName]
  rw [h] at hslash
  cases hslash

namespace Steward

/-! ## Calls -/

/-- What a steward does for its repository. -/
inductive Call where
  | pass
  | summary
deriving DecidableEq, Repr

namespace Call

abbrev Result : Call → Type
  | .pass => Report
  | .summary => Summary

def act (st : Steward σ) : (call : Call) → Act σ call.Result
  | .pass => st.runPass
  | .summary => st.describe

end Call

section Loyal

variable {st : Steward σ} (h : st.host.Loyal)
include h

theorem currentVersion_loyal : Act.Loyal st.currentVersion := by
  refine Loyal.bind (h.fileText _ _).attempt fun answer => ?_
  cases answer with
  | error e => exact Loyal.noted (loyal_pure _)
  | ok manifest =>
    refine Loyal.bind (loyal_orHalt _) fun version => Loyal.bind (loyal_orHalt _) fun _ => ?_
    exact Loyal.noted (loyal_pure _)

theorem milestoneFor_loyal (version : Version) : Act.Loyal (st.milestoneFor version) :=
  Loyal.bind (Host.openMilestones_loyal h) fun milestones => resolveMainline_loyal version milestones

theorem Call.act_loyal (hclock : Act.Loyal st.governor.clock) (call : Call) :
    ∃ x, call.act st = Act.forRepo st.fullName x ∧ Act.Loyal x := by
  cases call with
  | pass =>
    refine ⟨_, rfl, ?_⟩
    refine Loyal.bind (Loyal.bind (Host.openMilestones_loyal h) fun milestones => ?_) fun branches => ?_
    · exact Host.activeBranches_loyal h _ milestones
    · exact Governor.runPass_loyal h hclock branches
  | summary =>
    refine ⟨_, rfl, ?_⟩
    refine Loyal.bind (currentVersion_loyal h) fun version => ?_
    cases version with
    | none => exact Loyal.bind (loyal_pure none) fun _ => Loyal.bind (loyal_orHalt _) fun _ => loyal_pure _
    | some version =>
      refine Loyal.bind (milestoneFor_loyal h version) fun _ => ?_
      exact Loyal.bind (loyal_orHalt _) fun _ => loyal_pure _

end Loyal

theorem eq_ofConfig {config : AppConfig} {host : Host σ} {clock : Act σ Stamp} {rehearsal : Bool} {st : Steward σ}
    (hst : of? config host clock rehearsal = .ok st) : st = ofConfig config host clock rehearsal := by
  rw [of?, Governor.of?] at hst
  split at hst
  · cases hst
  · cases hst
    rfl

/-- **Calls are tagged**: threads can make each call of a steward, and however they make it, it ends as the call does,
with a result or a failure. Every thread then works for what it worked for before, so the context of the caller is
restored, whichever that was. Each line that is written, by the caller or by a thread of the pool and at any
verbosity, is tagged with the repository of the settings. -/
theorem calls_tagged {config : AppConfig} {gateway : Gateway σ} {pageLimit : Nat} {rehearsal : Bool}
    {st : Steward (Session σ)} (hst : of? config (gateway.host pageLimit) gateway.clock rehearsal = .ok st)
    (call : Call) :
    (∃ m, Carries m (call.act st)) ∧
      ∀ m, Carries m (call.act st) → ∀ (name : String) (callers : String → Option String) (d : Desk (Session σ)),
        CarriedOut config.repo.fullName (call.act st) m (.caller name) (.opened callers d) := by
  obtain rfl := eq_ofConfig hst
  have hhost : (ofConfig config (gateway.host pageLimit) gateway.clock rehearsal).host.Loyal :=
    gateway.host_loyal pageLimit
  obtain ⟨x, hact, hloyal⟩ := call.act_loyal hhost Gateway.clock_loyal
  rw [hact]
  constructor
  · obtain ⟨m, hm⟩ := hloyal.carried
    exact ⟨_, .forRepo _ hm⟩
  · intro m hm name callers d
    exact hloyal.carriedOut config.repo.fullName_ne hm (Office.ready_opened callers d _)

/-! ### A caller that works for another repository -/

/-- A gateway that makes one attempt at each request of a script. -/
def scriptedGateway : Gateway Script :=
  { station := Script.station, owner := "o", name := "r", maxAttempts := 1 }

/-- A thread that works for `x/y` makes a pass for `o/r`, and works for `x/y` afterwards. -/
theorem calls_tagged_nested :
    Config.read (fun _ => none) outageDocument = .ok outageConfig ∧
      ∃ st, of? outageConfig (scriptedGateway.host 10) scriptedGateway.clock false = .ok st ∧
        ∃ m, Carries m st.runPass ∧ ∀ d,
          CarriedOut "o/r" st.runPass m (.caller "MainThread") (.opened (fun _ => some "x/y") d) := by
  have hconfig : Config.read (fun _ => none) outageDocument = .ok outageConfig := by rfl
  have hst := of?_of_read hconfig (scriptedGateway.host 10) scriptedGateway.clock false
  obtain ⟨⟨m, hm⟩, hall⟩ := calls_tagged hst .pass
  exact ⟨hconfig, _, hst, m, hm, fun d => hall m hm "MainThread" (fun _ => some "x/y") d⟩

end Steward

end RunSteward
