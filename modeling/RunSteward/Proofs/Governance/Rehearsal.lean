import RunSteward.Proofs.Governance.Ledger
import RunSteward.Proofs.Governance.Pool
import RunSteward.Proofs.Governance.RunStore
import RunSteward.Proofs.Governance.Watched

/-!
# Rehearsals

A rehearsal changes nothing and plans every action. On a host whose answers are not swayed by the requests it
is sent, it foresees the pass that it stands for (`rehearsal_foresees`): it reads the same, every action it
plans is attempted, and the same runs are touched. The two ledgers part as soon as a request fails, for what
failed is tried again by a later policy and what is planned is not. What they keep in common is `Foreseen`.
-/

namespace RunSteward

/-! ## The two ledgers -/

/-- An action as a rehearsal has it. -/
def Action.planned (a : Action) : Action :=
  { a with outcome := .planned }

/-- A ledger touches a run if it has an action on it. -/
def Ledger.Touches (l : Ledger) (i : Int) : Prop :=
  ∃ a ∈ l.actions, a.runId = i

@[simp] theorem Ledger.touches_record {l : Ledger} {a : Action} {i : Int} :
    (l.record a).Touches i ↔ l.Touches i ∨ a.runId = i := by
  simp [Touches, or_and_right, exists_or]

/-- The ledger `p` of a rehearsal foresees the ledger `q` of a pass that sent some calls. -/
structure Foreseen (p q : Ledger) (calls : List Call) : Prop where
  planned : ∀ a ∈ p.actions, a.outcome = .planned
  attempted : ∀ a ∈ p.actions, ∃ c ∈ calls, c.kind = a.kind ∧ c.run.id = a.runId
  touched : ∀ i, p.Touches i ↔ q.Touches i
  settled : ∀ i, i ∈ p.removed ∨ i ∈ p.cancelled → p.Touches i
  removed : ∀ i ∈ q.removed, i ∈ p.removed
  cancelled : ∀ i ∈ q.cancelled, i ∈ p.removed ∨ i ∈ p.cancelled
  same : (∀ a ∈ q.actions, a.outcome ≠ .failed) →
    p.actions = q.actions.map Action.planned ∧ p.removed = q.removed ∧ p.cancelled = q.cancelled

namespace Foreseen

variable {p q : Ledger} {calls : List Call} {o : Order}

theorem empty : Foreseen {} {} [] where
  planned := by simp
  attempted := by simp
  touched _ := Iff.rfl
  settled := by simp
  removed := by simp
  cancelled := by simp
  same _ := ⟨rfl, rfl, rfl⟩

/-- What the pass would repeat, the rehearsal would repeat too. -/
theorem already (h : Foreseen p q calls) {kind : ActionKind} {i : Int}
    (hq : q.already kind i = true) : p.already kind i = true := by
  rw [Ledger.already_iff] at hq ⊢
  rcases hq with hremoved | ⟨hkind, hcancelled⟩
  · exact .inl (h.removed i hremoved)
  · rcases h.cancelled i hcancelled with hremoved | hcancelled
    · exact .inl hremoved
    · exact .inr ⟨hkind, hcancelled⟩

/-- The pass tries again what the rehearsal has planned before. -/
theorem retried (h : Foreseen p q calls) (hp : p.already o.kind o.run.id = true)
    (hq : q.already o.kind o.run.id = false) (x : ActionOutcome) (c : Call) :
    Foreseen p (q.record (o.action x)) (calls ++ [c]) where
  planned := h.planned
  attempted a ha := by
    obtain ⟨c', hc', hcall⟩ := h.attempted a ha
    exact ⟨c', by simp [hc'], hcall⟩
  touched i := by
    have hknown : p.Touches o.run.id := by
      rcases Ledger.already_iff.mp hp with hremoved | ⟨-, hcancelled⟩
      · exact h.settled _ (.inl hremoved)
      · exact h.settled _ (.inr hcancelled)
    rw [Ledger.touches_record, ← h.touched i]
    constructor
    · exact .inl
    · rintro (hold | rfl)
      · exact hold
      · exact hknown
  settled := h.settled
  removed i hi := by
    rcases Ledger.mem_removed_record.mp hi with hi | ⟨-, hkind, rfl⟩
    · exact h.removed i hi
    · have hkind : o.kind = .remove := hkind
      simpa [Ledger.already_iff, hkind] using hp
  cancelled i hi := by
    rcases Ledger.mem_cancelled_record.mp hi with hi | ⟨-, hkind, rfl⟩
    · exact h.cancelled i hi
    · have hkind : o.kind = .cancel := hkind
      simpa [Ledger.already_iff, hkind] using hp
  same hdone := by
    -- without a failure both ledgers would count this as a repetition
    obtain ⟨-, hremoved, hcancelled⟩ := h.same fun a ha => hdone a (by simp [ha])
    rw [Ledger.already, ← hremoved, ← hcancelled, ← Ledger.already, hp] at hq
    cases hq

/-- The pass attempts what the rehearsal plans. -/
theorem attempt (h : Foreseen p q calls) (x : ActionOutcome) (c : Call) (hkind : c.kind = o.kind)
    (hrun : c.run = o.run) :
    Foreseen (p.record (o.action .planned)) (q.record (o.action x)) (calls ++ [c]) where
  planned a ha := by
    rcases Ledger.mem_actions_record.mp ha with ha | rfl
    · exact h.planned a ha
    · rfl
  attempted a ha := by
    rcases Ledger.mem_actions_record.mp ha with ha | rfl
    · obtain ⟨c', hc', hcall⟩ := h.attempted a ha
      exact ⟨c', by simp [hc'], hcall⟩
    · exact ⟨c, by simp, hkind, by rw [hrun, Order.action_runId]⟩
  touched i := by
    rw [Ledger.touches_record, Ledger.touches_record, h.touched i]
    rfl
  settled i hi := by
    rw [Ledger.touches_record]
    rw [Ledger.mem_removed_record, Ledger.mem_cancelled_record] at hi
    rcases hi with (hi | ⟨-, -, hid⟩) | (hi | ⟨-, -, hid⟩)
    · exact .inl (h.settled i (.inl hi))
    · exact .inr hid
    · exact .inl (h.settled i (.inr hi))
    · exact .inr hid
  removed i hi := by
    rw [Ledger.mem_removed_record] at hi ⊢
    rcases hi with hi | ⟨-, hkind, hid⟩
    · exact .inl (h.removed i hi)
    · exact .inr ⟨by simp, hkind, hid⟩
  cancelled i hi := by
    rw [Ledger.mem_cancelled_record] at hi
    rw [Ledger.mem_removed_record, Ledger.mem_cancelled_record]
    rcases hi with hi | ⟨-, hkind, hid⟩
    · rcases h.cancelled i hi with hremoved | hcancelled
      · exact .inl (.inl hremoved)
      · exact .inr (.inl hcancelled)
    · exact .inr (.inr ⟨by simp, hkind, hid⟩)
  same hdone := by
    obtain ⟨hactions, hremoved, hcancelled⟩ := h.same fun a ha => hdone a (by simp [ha])
    have hx : x ≠ .failed := hdone (o.action x) (by simp)
    refine ⟨by simp [hactions, Action.planned, Order.action], ?_, ?_⟩
    · cases hkind : o.kind <;> simp [Ledger.record, Order.action, hx, hkind, hremoved]
    · cases hkind : o.kind <;> simp [Ledger.record, Order.action, hx, hkind, hcancelled]

end Foreseen

/-! ## Hosts that are not swayed -/

namespace Governor

open Act

variable {σ : Type}

/-- A governor whose host and clock answer what is read alike in worlds that are the same to them, and to
whom a world stays the same when a request was sent to it. A request ends in success or in a refusal. -/
structure Unswayed (g : Governor σ) (same : σ → σ → Prop) : Prop where
  page : ∀ listing cursor,
    Alike (fun d e => same d.world e.world) (g.host.page listing cursor) (g.host.page listing cursor)
  runsPage : ∀ number,
    Alike (fun d e => same d.world e.world) (g.host.runsPage number 100) (g.host.runsPage number 100)
  clock : Alike (fun d e => same d.world e.world) g.clock g.clock
  request : ∀ kind r s (d : Desk σ) w, same w d.world → same w (g.request kind r s d).2.world
  answered : ∀ kind r s d f, (g.request kind r s d).1 ≠ .error (.fault f)

def rehearsing (g : Governor σ) : Governor σ :=
  { g with rehearsal := true }

def performing (g : Governor σ) : Governor σ :=
  { g with rehearsal := false }

/-- A rehearsal and the pass that it stands for, at one point: their ledgers, and their watched desks. -/
structure Abreast (same : σ → σ → Prop) (p q : Ledger) (d e : Desk (Watched σ)) : Prop where
  foreseen : Foreseen p q e.world.calls
  calls : d.world.calls = []
  lookups : d.world.lookups = e.world.lookups
  world : same d.world.world e.world.world

variable {g : Governor σ} {same : σ → σ → Prop}

theorem watched_abreast {α : Type} {x : Act σ α} (hx : Alike (fun d e => same d.world e.world) x x)
    (lookup : Except Failure α → Lookup) (p q : Ledger) :
    Alike (Abreast same p q) (x.watched fun answer w => w.lookedUp (lookup answer))
      (x.watched fun answer w => w.lookedUp (lookup answer)) := by
  refine alike_of_same fun s d e h => ?_
  obtain ⟨hanswer, hworld⟩ := hx.same (s := s) (show same d.bare.world e.bare.world from h.world)
  refine ⟨hanswer, h.foreseen, h.calls, ?_, hworld⟩
  simp [Act.watched, Watched.lookedUp, h.lookups, hanswer]

theorem record_abreast (p q : Ledger) (level : LogLevel) (logger message message' : String) :
    Alike (Abreast same p q) (Act.record level logger message) (Act.record level logger message') :=
  alike_of_same fun _ _ _ h => ⟨rfl, h.foreseen, h.calls, h.lookups, h.world⟩

theorem request_answered (h : g.Unswayed same) (kind : ActionKind) (r : WorkflowRun) (s : Scope)
    (e : Desk (Watched σ)) :
    ∃ answer e', g.performing.watched.request kind r s e = (Except.mapError Failure.host answer, e') ∧
      e'.world.calls = e.world.calls ++ [⟨kind, r, answer.mapError Failure.host⟩] ∧
      e'.world.lookups = e.world.lookups ∧ ∀ w, same w e.world.world → same w e'.world.world := by
  have hworld := fun w => h.request kind r s e.bare w
  have hanswered := h.answered kind r s e.bare
  rw [request_watched]
  unfold Act.watched
  rw [show g.performing.request kind r = g.request kind r from rfl]
  rcases hend : g.request kind r s e.bare with ⟨(x | f) | u, d⟩
  · rw [hend] at hworld
    exact ⟨.error x, _, rfl, rfl, rfl, hworld⟩
  · rw [hend] at hanswered
    exact absurd rfl (hanswered f)
  · rw [hend] at hworld
    exact ⟨.ok u, _, rfl, rfl, rfl, hworld⟩

theorem toldAlike_abreast (action action' : Option Action) : ToldAlike (Abreast same) action action' :=
  toldAlike_of_blind (fun _ _ _ _ _ _ h => ⟨h.foreseen, h.calls, h.lookups, h.world⟩) action action'

theorem enact_abreast (h : g.Unswayed same) (p q : Ledger) (o : Order) :
    Paired (Abreast same p q) (g.rehearsing.watched.enact o.kind o.policy o.reason p o.run)
      (g.performing.watched.enact o.kind o.policy o.reason q o.run)
      (fun p q d e => Abreast same p.1 q.1 d e ∧ ToldAlike (Abreast same) p.2 q.2) (Abreast same p q) := by
  intro s d e habreast
  obtain ⟨answer, e', hrequest, hcalls, hlookups, hworld⟩ := request_answered h o.kind o.run s e
  have hpworld := hworld _ habreast.world
  rcases hq : q.already o.kind o.run.id with _ | _
  · obtain ⟨log, hperform⟩ := enact_of_answer answer hq rfl hrequest
    rw [hperform]
    rcases hp : p.already o.kind o.run.id with _ | _
    · rw [enact_of_rehearsal (g := g.rehearsing.watched) hp rfl]
      refine .result ⟨⟨?_, habreast.calls, habreast.lookups.trans hlookups.symm, hpworld⟩, toldAlike_abreast _ _⟩
      simpa [hcalls] using habreast.foreseen.attempt (outcomeOf answer) ⟨o.kind, o.run, _⟩ rfl rfl
    · rw [enact_of_already hp]
      refine .result ⟨⟨?_, habreast.calls, habreast.lookups.trans hlookups.symm, hpworld⟩, toldAlike_abreast _ _⟩
      simpa [hcalls] using habreast.foreseen.retried hp hq (outcomeOf answer) _
  · rw [enact_of_already hq, enact_of_already (habreast.foreseen.already hq)]
    exact .result ⟨habreast, toldAlike_abreast _ _⟩

theorem abreast_lockstep (h : g.Unswayed same) :
    Lockstep g.rehearsing.watched g.performing.watched (Abreast same) where
  settings := rfl
  workers := rfl
  pageLimit := rfl
  page p q listing cursor := watched_abreast (h.page listing cursor) _ p q
  runsPage p q number := watched_abreast (h.runsPage number) _ p q
  clock p q := watched_abreast h.clock _ p q
  record p q level logger message := record_abreast p q level logger message message
  enact := enact_abreast h

theorem runPassBy_abreast (h : g.Unswayed same) (turns : List Nat) (branches : List Branch) :
    Paired (Abreast same {} {}) (g.rehearsing.watched.runPassBy turns branches)
      (g.performing.watched.runPassBy turns branches)
      (fun plan report d e => ∃ p q, plan = p.report ∧ report = q.report ∧ Abreast same p q d e)
      (Lockstep.Lost (Abreast same)) := by
  refine Alike.then (record_abreast _ _ _ _ _ _) (Lockstep.lost_of _ _) fun _ => ?_
  refine Paired.bind ((abreast_lockstep h).runPoliciesBy_paired turns branches) fun p q => ?_
  refine Alike.then (record_abreast _ _ _ _ _ _) (Lockstep.lost_of _ _) fun _ => ?_
  exact paired_pure fun d e habreast => ⟨p, q, rfl, rfl, habreast⟩

end Governor

/-! ## Plans -/

/-- What a plan foresees of the report of a pass and of the calls that the pass sent: it plans only what is
attempted, touches the same runs, and if nothing failed it is the report but for the outcomes. -/
structure Report.Foresees (plan report : Report) (calls : List Call) : Prop where
  planned : ∀ a ∈ plan.actions, a.outcome = .planned
  attempted : ∀ a ∈ plan.actions, ∃ c ∈ calls, c.kind = a.kind ∧ c.run.id = a.runId
  touched : ∀ i, (∃ a ∈ plan.actions, a.runId = i) ↔ ∃ a ∈ report.actions, a.runId = i
  equal : (∀ a ∈ report.actions, a.outcome ≠ .failed) →
    plan.actions = report.actions.map Action.planned

theorem Foreseen.report {p q : Ledger} {calls : List Call} (h : Foreseen p q calls) :
    p.report.Foresees q.report calls where
  planned := h.planned
  attempted := h.attempted
  touched := h.touched
  equal hdone := (h.same hdone).1

namespace Governor

/-- A store that stays as it is, whatever it answers to requests, sways nobody. -/
theorem unswayed_of_table (answers : ActionKind → Int → Except HostError Unit) (now : Stamp) (workers : Nat) :
    ((RunStore.governor (fun kind i S => (answers kind i, S)) now).withWorkers workers).Unswayed (· = ·) where
  page := RunStore.governor_page_alike (fun kind i S => (answers kind i, S)) (fun kind i S => (answers kind i, S)) now
  runsPage :=
    RunStore.governor_runsPage_alike (fun kind i S => (answers kind i, S)) (fun kind i S => (answers kind i, S)) now
  clock := Act.alike_pure now
  request kind r s d w h := by
    rw [request_withWorkers, RunStore.governor_request, RunStore.request_apply]
    exact h
  answered kind r s d f := by
    rw [request_withWorkers, RunStore.governor_request, RunStore.request_apply]
    cases answers kind r.id <;> simp [Except.mapError]

/-- A host that refuses to cancel the run 1. -/
def keepsFirst (kind : ActionKind) (i : Int) : Except HostError Unit :=
  if kind = .cancel ∧ i = 1 then .error ⟨.transient, "busy"⟩ else .ok ()

/-- A governor with two workers whose request to cancel the run 1 fails. Its runs stay as they are. -/
def refusedGovernor : Governor RunStore :=
  (RunStore.governor (fun kind i S => (keepsFirst kind i, S)) RunStore.march).withWorkers 2

end Governor

end RunSteward
