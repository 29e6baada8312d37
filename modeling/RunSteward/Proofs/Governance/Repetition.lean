import RunSteward.Proofs.Governance.Findings
import RunSteward.Proofs.Governance.Ledger
import RunSteward.Proofs.Governance.RunStore

/-!
# No repetitions

Five policies work on listings that overlap, and share one ledger. Whatever the host answers, a report never
shows an action on a run after one that settled it, and outside of rehearsals the requests of a pass are its
reported actions, one for one (`runPass_permitted`).
-/

namespace RunSteward

/-- A request and the action that reports it: the outcome tells how the request was answered. -/
structure Call.Reported (c : Call) (a : Action) : Prop where
  kind : a.kind = c.kind
  runId : a.runId = c.run.id
  done : a.outcome = .done ↔ c.answer = .ok ()
  noop : a.outcome = .noop ↔
    ∃ e : HostError, c.answer = .error (.host e) ∧ (e.kind = .notFound ∨ e.kind = .conflict)
  failed : a.outcome = .failed ↔
    ∃ e : HostError, c.answer = .error (.host e) ∧ e.kind ≠ .notFound ∧ e.kind ≠ .conflict

theorem Order.reported (o : Order) (answer : Except HostError Unit) :
    Call.Reported ⟨o.kind, o.run, answer.mapError Failure.host⟩
      (o.action (Governor.outcomeOf answer)) := by
  rcases answer with e | _
  · by_cases hsettled : e.kind = .notFound ∨ e.kind = .conflict
    · have hnot : ¬(e.kind ≠ .notFound ∧ e.kind ≠ .conflict) := by simpa [or_iff_not_imp_left] using hsettled
      constructor <;> simp [Governor.outcomeOf, Except.mapError, hsettled, hnot]
    · obtain ⟨hfound, hconflict⟩ := not_or.mp hsettled
      constructor <;> simp [Governor.outcomeOf, Except.mapError, hfound, hconflict]
  · constructor <;> simp [Governor.outcomeOf, Except.mapError]

namespace Obeyed

variable {rehearsal : Bool} {l l' : Ledger} {os : List Order} {calls : List Call}

theorem kept (h : Obeyed rehearsal l os l' calls) (hkept : l.Kept) : l'.Kept := by
  induction h with
  | nil l => exact hkept
  | already _ _ ih => exact ih hkept
  | planned _ hfresh _ ih => exact ih (hkept.record hfresh)
  | sent _ hfresh _ _ ih => exact ih (hkept.record hfresh)

/-- Outside of rehearsals, each request is reported by one action, in order. -/
theorem reported (h : Obeyed rehearsal l os l' calls) (hreal : rehearsal = false) :
    ∃ actions, l'.actions = l.actions ++ actions ∧ List.Forall₂ Call.Reported calls actions := by
  induction h with
  | nil l => exact ⟨[], by simp, .nil⟩
  | already _ _ ih => exact ih
  | planned hrehearsal _ _ _ => simp [hreal] at hrehearsal
  | @sent l l' o os calls _ _ answer _ ih =>
    obtain ⟨actions, hactions, hreported⟩ := ih
    refine ⟨o.action (Governor.outcomeOf answer) :: actions, ?_, .cons (o.reported answer) hreported⟩
    simp [hactions]

end Obeyed

namespace Governor

variable {σ : Type}

/-- Outside of rehearsals the requests of a pass are the actions of its report, one for one and in order. -/
theorem calls_reported {g : Governor σ} {branches : List Branch} {s : Scope} {d : Desk σ} {report : Report}
    (hreal : g.rehearsal = false) (hreport : (g.runPass branches s d).1 = .ok report) :
    List.Forall₂ Call.Reported (g.calls branches s d) report.actions := by
  obtain ⟨v, l, -, hobeyed, rfl⟩ := runPass_surveyed hreport
  obtain ⟨actions, hactions, hreported⟩ := hobeyed.reported hreal
  have hall : l.report.actions = actions := by simpa [Ledger.report] using hactions
  rw [hall]
  exact hreported

/-- **No repetitions.** In the report of a pass, an action that did not fail is followed on its run by
nothing but the removal of a run that was cancelled. Outside of rehearsals the requests of the pass are the
reported actions, one for one and in order, and each outcome tells how the request was answered. -/
theorem runPass_permitted (g : Governor σ) (branches : List Branch) (s : Scope) (d : Desk σ)
    (report : Report) (hreport : (g.runPass branches s d).1 = .ok report) :
    report.actions.Pairwise Action.Permits ∧
      (g.rehearsal = false → List.Forall₂ Call.Reported (g.calls branches s d) report.actions) := by
  refine ⟨?_, fun hreal => calls_reported hreal hreport⟩
  obtain ⟨v, l, -, hobeyed, rfl⟩ := runPass_surveyed hreport
  exact (hobeyed.kept .empty).permitted

/-- Two stale runs, one of which cannot be cancelled at first: it is tried again, and both are removed. -/
def staleReport : Report :=
  ⟨[⟨.duplicateQueued, .cancel, 1, "build", "main", "superseded_by_newer_run", .failed⟩,
    ⟨.retention, .cancel, 2, "build", "main", "stale", .done⟩,
    ⟨.retention, .remove, 2, "build", "main", "stale", .done⟩,
    ⟨.retention, .cancel, 1, "build", "main", "stale", .failed⟩,
    ⟨.retention, .remove, 1, "build", "main", "stale", .done⟩]⟩

/-- A governor whose requests to cancel the run 1 all fail. -/
def staleGovernor : Governor RunStore :=
  RunStore.governor (fun kind i S =>
    if kind = .cancel ∧ i = 1 then (.error ⟨.transient, "busy"⟩, S) else RunStore.answer kind i S)
    RunStore.march

theorem runPass_permitted_stale :
    (staleGovernor.runPass [⟨"main", ""⟩] {} RunStore.pairDesk).1 = .ok staleReport ∧
      staleReport.actions.Pairwise Action.Permits ∧
      List.Forall₂ Call.Reported (staleGovernor.calls [⟨"main", ""⟩] {} RunStore.pairDesk)
        staleReport.actions := by
  have hreport : (staleGovernor.runPass [⟨"main", ""⟩] {} RunStore.pairDesk).1 = .ok staleReport := by
    decide +kernel
  have hpermitted := runPass_permitted staleGovernor [⟨"main", ""⟩] {} RunStore.pairDesk staleReport hreport
  exact ⟨hreport, hpermitted.1, hpermitted.2 rfl⟩

end Governor

end RunSteward
