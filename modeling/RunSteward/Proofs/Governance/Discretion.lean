import RunSteward.Proofs.Gateway.Audit
import RunSteward.Proofs.Governance.Orders
import RunSteward.Proofs.Governance.RunStore

/-!
# Discreet governors

The log of a pass holds the lines that the pass writes about its actions, and much else: what the host logs of its
requests, what is read and what fails. A governor is discreet if nothing that its host or its clock logs could be taken
for the lines of the pass (`Governor.Discreet`). A gateway logs nothing of the kind, whatever is sent through it
(`Governor.discreet_of_gateway`), and whatever a discreet governor reads or asks for is logged in other words.
-/

namespace RunSteward

open Act

variable {σ : Type}

/-! ## Lines -/

/-- The events that tell what a pass did. -/
def passEvents : List String :=
  ["governance_action", "governance_pass_completed"]

/-- A record that tells of something else. -/
def IsForeign (r : LogRecord) : Prop :=
  ∀ event ∈ passEvents, LogEvent.name? r.message ≠ some event

section Lines

variable {s : Scope} {level : LogLevel} {logger event : String} {fields : LogFields}

theorem isForeign_message (hname : LogEvent.IsName event) (h : event ∉ passEvents) :
    IsForeign ⟨level, logger, s, LogEvent.message event fields⟩ := by
  intro other hother heq
  obtain rfl : event = other := Option.some.inj ((LogEvent.name?_message hname).symm.trans heq)
  exact h hother

theorem logs_foreign (hname : LogEvent.IsName event) (h : event ∉ passEvents) :
    Logs s IsForeign (record level logger (LogEvent.message event fields) : Act σ Unit) :=
  logs_record (isForeign_message hname h)

end Lines

/-! ## Hosts -/

/-- A governor whose host and clock log nothing that could be taken for the lines of a pass. -/
structure Governor.Discreet (g : Governor σ) : Prop where
  page : ∀ s listing cursor, Logs s IsForeign (g.host.page listing cursor)
  runsPage : ∀ s number, Logs s IsForeign (g.host.runsPage number 100)
  request : ∀ s kind r, Logs s IsForeign (g.request kind r)
  clock : ∀ s, Logs s IsForeign g.clock

namespace Gateway

variable {g : Gateway σ} {s : Scope} {event : String}

theorem isForeign_of_isAside (r : LogRecord) (h : IsAside r) : IsForeign r := by
  obtain ⟨name, hname, hread⟩ := h
  have hapart : ∀ name ∈ asideEvents, name ∉ passEvents := by decide
  intro event hevent heq
  obtain rfl : name = event := Option.some.inj (hread.symm.trans heq)
  exact hapart name hname hevent

theorem getJson_foreign (path : String) : Logs s IsForeign (g.getJson path) :=
  (getJson_logs path).mono isForeign_of_isAside

theorem noteRead_foreign (endpoint : String) (fields : LogFields) :
    Logs s IsForeign (noteRead (σ := σ) endpoint fields) :=
  logs_foreign (by decide) (by decide)

theorem sendOnly_foreign (r : Request) (hname : LogEvent.IsName event ∧ LogEvent.IsName (event ++ "_failed"))
    (h : event ∉ passEvents ∧ event ++ "_failed" ∉ passEvents) (fields : LogFields) :
    Logs s IsForeign (g.sendOnly r event fields) := by
  intro d
  obtain ⟨records, haside, hlog⟩ := sendOnly_log (g := g) r event fields s d
  refine ⟨_, hlog, fun x hx => ?_⟩
  rcases List.mem_append.mp hx with hx | hx
  · exact isForeign_of_isAside x (haside x hx)
  · rcases hend : (g.request r s d).1 with (e | f) | reply
    · rw [hend] at hx
      obtain rfl := List.mem_singleton.mp hx
      exact isForeign_message hname.2 h.2
    · rw [hend] at hx
      cases hx
    · rw [hend] at hx
      obtain rfl := List.mem_singleton.mp hx
      exact isForeign_message hname.1 h.1

end Gateway

theorem Governor.discreet_of_gateway {g : Governor (Session σ)} {gateway : Gateway σ} {pageLimit : Nat}
    (hhost : g.host = gateway.host pageLimit) (hclock : ∀ s, Logs s IsForeign g.clock) : g.Discreet where
  page s listing cursor := by
    rw [hhost]
    exact Logs.bind (Gateway.getJson_foreign _) fun _ => Logs.bind (logs_orRefuse _) fun _ =>
      Logs.bind (Gateway.noteRead_foreign _ _) fun _ => logs_pure _
  runsPage s number := by
    rw [hhost]
    change Logs s IsForeign (gateway.runsPage number 100)
    unfold Gateway.runsPage
    split
    · exact logs_fail _
    · exact Logs.bind (Gateway.getJson_foreign _) fun _ => Logs.bind (logs_orRefuse _) fun _ =>
        Logs.bind (Gateway.noteRead_foreign _ _) fun _ => logs_pure _
  request s kind r := by
    cases kind with
    | cancel =>
      rw [Governor.request, hhost]
      exact Gateway.sendOnly_foreign _ (by decide) (by decide) _
    | remove =>
      rw [Governor.request, hhost]
      exact Gateway.sendOnly_foreign _ (by decide) (by decide) _
  clock := hclock

theorem RunStore.governor_discreet (respond : ActionKind → Int → RunStore → Except HostError Unit × RunStore)
    (now : Stamp) : (RunStore.governor respond now).Discreet where
  page _ _ _ := logs_outside _
  runsPage _ _ := logs_outside _
  request _ kind r := by
    rw [RunStore.governor_request]
    exact Logs.bind (logs_outside _) fun _ => logs_orRefuse _
  clock _ := logs_pure _

/-! ## Requests and listings -/

namespace Governor

variable {g : Governor σ}

theorem mutate_foreign (hg : g.Discreet) (kind : ActionKind) (policy : Policy) (r : WorkflowRun) (s : Scope) :
    Logs s IsForeign (g.mutate kind policy r) := by
  unfold mutate
  split
  · exact logs_pure _
  · refine Logs.bind (hg.request s kind r).attempt fun answer => ?_
    split
    · refine Logs.bind ?_ fun _ => logs_pure _
      cases kind
      · exact logs_foreign (by decide) (by decide)
      · exact logs_foreign (by decide) (by decide)
    · exact logs_pure _

theorem gatherFrom_foreign (hg : g.Discreet) (listing : Listing) (limit : Nat) (cursor : Option Cursor) (s : Scope) :
    Logs s IsForeign (g.host.gatherFrom listing limit cursor) := by
  induction limit generalizing cursor with
  | zero => exact logs_fail _
  | succ limit ih =>
    refine Logs.bind (hg.page s listing cursor).attempt fun answer => ?_
    rcases answer with e | ⟨items, _ | next⟩
    · exact logs_pure _
    · exact logs_pure _
    · exact Logs.bind (ih (some next)) fun _ => logs_pure _

theorem collect_foreign (hg : g.Discreet) (listing : Listing) (s : Scope) :
    Logs s IsForeign (g.host.collect listing) := by
  refine Logs.bind (gatherFrom_foreign hg listing _ none s) fun found => ?_
  rcases found with ⟨items, _ | e⟩
  · exact logs_pure _
  · exact logs_fail _

theorem listRuns_foreign (hg : g.Discreet) (filter : RunFilter) (s : Scope) :
    Logs s IsForeign (g.listRuns filter) := by
  refine Logs.bind (collect_foreign hg _ s).attempt fun answer => ?_
  cases answer with
  | ok runs => exact logs_pure _
  | error e => exact Logs.bind (logs_foreign (by decide) (by decide)) fun _ => logs_pure _

theorem openPullRequests_foreign (hg : g.Discreet) (s : Scope) : Logs s IsForeign g.openPullRequests := by
  refine Logs.bind (collect_foreign hg _ s).attempt fun answer => ?_
  cases answer with
  | ok pulls => exact Logs.bind (logs_foreign (by decide) (by decide)) fun _ => logs_pure _
  | error e => exact Logs.bind (logs_foreign (by decide) (by decide)) fun _ => logs_pure _

end Governor

end RunSteward
