import RunSteward.Proofs.Governance.Completion
import RunSteward.Proofs.Governance.Ledger
import RunSteward.Proofs.Governance.Lockstep
import RunSteward.Proofs.Governance.Pool
import RunSteward.Proofs.Governance.RunStore

/-!
# Isolation of runs

How the requests for one run are answered is no matter to any other run. Two passes are compared whose hosts show
the same and answer alike the requests for all runs but one (`Governor.ApartOn`). Their ledgers part on that run: what
failed on one side is tried again later, and what was done on the other side is not. Beside that run the ledgers
stay the same (`obey_apart`), and so do the reports (`runPass_isolated`).
-/

namespace RunSteward

variable {σ τ : Type}

/-! ## Beside one run -/

/-- The actions of a report on all runs but one. -/
def Report.beside (r : Report) (i : Int) : List Action :=
  r.actions.filter fun a => a.runId != i

namespace Ledger

/-- What a ledger keeps of all runs but one. -/
def beside (l : Ledger) (i : Int) : Ledger where
  actions := l.actions.filter fun a => a.runId != i
  cancelled := l.cancelled.filter (· != i)
  removed := l.removed.filter (· != i)

variable {l l' : Ledger} {a : Action} {i j : Int}

theorem already_beside (kind : ActionKind) (h : j ≠ i) : (l.beside i).already kind j = l.already kind j := by
  have hmem : ∀ xs : List Int, (xs.filter (· != i)).contains j = xs.contains j := by
    intro xs
    rw [Bool.eq_iff_iff]
    simp [h]
  unfold already beside
  rw [hmem, hmem]

theorem beside_record_self (h : a.runId = i) : (l.record a).beside i = l.beside i := by
  unfold record beside
  split
  · simp [h]
  · cases a.kind <;> simp [h]

theorem beside_record (h : a.runId ≠ i) : (l.record a).beside i = (l.beside i).record a := by
  unfold record beside
  split
  · simp [h]
  · cases a.kind <;> simp [h]

end Ledger

namespace Governor

open Act

/-! ## Passes that part on one run -/

/-- Two governors whose hosts show the same, in worlds that are the same to both, and answer requests alike for all
runs but the run `i`. A request for that run may be answered in any way, and what is the same before it is the same
after it. -/
structure ApartOn (i : Int) (g : Governor σ) (g' : Governor τ) (same : σ → τ → Prop) : Prop where
  settings : g'.settings = g.settings
  workers : g'.workers = g.workers
  rehearsal : g'.rehearsal = g.rehearsal
  pageLimit : g'.host.pageLimit = g.host.pageLimit
  page : ∀ listing cursor,
    Alike (fun d e => same d.world e.world) (g.host.page listing cursor) (g'.host.page listing cursor)
  runsPage : ∀ number,
    Alike (fun d e => same d.world e.world) (g.host.runsPage number 100) (g'.host.runsPage number 100)
  clock : Alike (fun d e => same d.world e.world) g.clock g'.clock
  request : ∀ kind r, r.id ≠ i →
    Alike (fun d e => same d.world e.world) (g.request kind r) (g'.request kind r)
  answers_left : ∀ kind r, r.id = i → ∀ w', Answers (fun w => same w w') (g.request kind r) fun _ w => same w w'
  answers_right : ∀ kind r, r.id = i → ∀ w, Answers (fun w' => same w w') (g'.request kind r) fun _ w' => same w w'

variable {i : Int} {g : Governor σ} {g' : Governor τ} {same : σ → τ → Prop}

/-- Two passes at one point: beside the run `i` their ledgers are the same, and so are their worlds to both. -/
def Apart (i : Int) (same : σ → τ → Prop) (l l' : Ledger) (d : Desk σ) (e : Desk τ) : Prop :=
  l.beside i = l'.beside i ∧ same d.world e.world

theorem record_apart (l l' : Ledger) (level level' : LogLevel) (logger logger' message message' : String) :
    Alike (Apart i same l l') (Act.record level logger message) (Act.record level' logger' message') :=
  fun _ _ _ hapart => .result ⟨rfl, hapart⟩

theorem toldAlike_apart (action action' : Option Action) : ToldAlike (Apart i same) action action' :=
  toldAlike_of_blind (fun _ _ _ _ _ _ hapart => hapart) action action'

/-- An order for the run `i` leaves everything beside that run as it is. -/
theorem enact_beside {P : σ → Prop} {o : Order} (h : Answers P (g.request o.kind o.run) fun _ => P)
    (hid : o.run.id = i) (l : Ledger) :
    Ends P (g.enact o.kind o.policy o.reason l o.run) fun p w => p.1.beside i = l.beside i ∧ P w := by
  refine (enact_recorded h l).mono (fun _ hP => hP) ?_
  rintro p w ⟨hp | ⟨x, hp⟩, hP⟩
  · exact ⟨by rw [hp], hP⟩
  · exact ⟨by rw [hp, Ledger.beside_record_self hid], hP⟩

variable (h : g.ApartOn i g' same)
include h

theorem mutate_apart (kind : ActionKind) (policy : Policy) {r : WorkflowRun} (hid : r.id ≠ i) :
    Alike (fun d e => same d.world e.world) (g.mutate kind policy r) (g'.mutate kind policy r) := by
  unfold mutate
  rw [h.rehearsal]
  rcases g.rehearsal with _ | _
  · refine Alike.bind (h.request kind r hid).attempt fun answer => ?_
    split
    · exact Alike.bind (fun _ _ _ hsame => .result ⟨rfl, hsame⟩) fun _ => alike_pure _
    · exact alike_pure _
  · exact alike_pure _

/-- Whatever becomes of an order for the run `i` in two passes, beside that run they stay the same. -/
theorem enact_apart_self (l l' : Ledger) {o : Order} (hid : o.run.id = i) :
    Paired (Apart i same l l') (g.enact o.kind o.policy o.reason l o.run) (g'.enact o.kind o.policy o.reason l' o.run)
      (fun p q => Apart i same p.1 q.1) (Apart i same l l') := by
  rintro s d e ⟨hledger, hsame⟩
  obtain ⟨p, d₁, henact, hp, hsame₁⟩ := enact_beside (h.answers_left o.kind o.run hid e.world) hid l s d hsame
  obtain ⟨q, e₁, henact', hq, hsame₁'⟩ :=
    enact_beside (h.answers_right o.kind o.run hid d₁.world) hid l' s e hsame₁
  rw [henact, henact']
  refine .result ⟨?_, hsame₁'⟩
  rw [hp, hq, hledger]

/-- An order for another run is a repetition in both passes or in none, and is answered alike. -/
theorem enact_apart_other (l l' : Ledger) {o : Order} (hid : o.run.id ≠ i) :
    Paired (Apart i same l l') (g.enact o.kind o.policy o.reason l o.run) (g'.enact o.kind o.policy o.reason l' o.run)
      (fun p q => Apart i same p.1 q.1) (Apart i same l l') := by
  rintro s d e ⟨hledger, hsame⟩
  have halready : l'.already o.kind o.run.id = l.already o.kind o.run.id := by
    rw [← Ledger.already_beside o.kind hid, ← hledger, Ledger.already_beside o.kind hid]
  rcases hrepeated : l.already o.kind o.run.id with _ | _
  · rw [enact_of_fresh hrepeated, enact_of_fresh (halready.trans hrepeated)]
    have hrecorded : Paired (fun d e => same d.world e.world)
        (g.mutate o.kind o.policy o.run >>= fun x => pure (l.record (o.action x), some (o.action x)))
        (g'.mutate o.kind o.policy o.run >>= fun x => pure (l'.record (o.action x), some (o.action x)))
        (fun p q => Apart i same p.1 q.1) fun d e => same d.world e.world := by
      refine Alike.then (mutate_apart h o.kind o.policy hid) (fun _ _ hsame => hsame) fun x => ?_
      refine paired_pure fun _ _ hsame => ⟨?_, hsame⟩
      rw [Ledger.beside_record hid, Ledger.beside_record hid, hledger]
    exact (hrecorded s d e hsame).mono (fun _ _ _ _ hres => hres) fun _ _ hlost => ⟨hledger, hlost⟩
  · rw [enact_of_already hrepeated, enact_of_already (halready.trans hrepeated)]
    exact .result ⟨hledger, hsame⟩

/-- **One order keeps two passes the same** beside the run they part on. -/
theorem enact_apart (l l' : Ledger) (o : Order) :
    Paired (Apart i same l l') (g.enact o.kind o.policy o.reason l o.run) (g'.enact o.kind o.policy o.reason l' o.run)
      (fun p q d e => Apart i same p.1 q.1 d e ∧ ToldAlike (Apart i same) p.2 q.2) (Apart i same l l') := by
  have hdone : Paired (Apart i same l l') (g.enact o.kind o.policy o.reason l o.run)
      (g'.enact o.kind o.policy o.reason l' o.run) (fun p q => Apart i same p.1 q.1) (Apart i same l l') := by
    by_cases hid : o.run.id = i
    · exact enact_apart_self h l l' hid
    · exact enact_apart_other h l l' hid
  exact hdone.mono (fun p q _ _ hapart => ⟨hapart, toldAlike_apart p.2 q.2⟩) fun _ _ hlost => hlost

theorem apart_lockstep : Lockstep g g' (Apart i same) where
  settings := h.settings
  workers := h.workers
  pageLimit := h.pageLimit
  page _ _ listing cursor := (h.page listing cursor).given
  runsPage _ _ number := (h.runsPage number).given
  clock _ _ := h.clock.given
  record l l' level logger message := record_apart l l' level level logger logger message message
  enact := enact_apart h

theorem runPassBy_apart (turns : List Nat) (branches : List Branch) :
    Paired (Apart i same {} {}) (g.runPassBy turns branches) (g'.runPassBy turns branches)
      (fun report report' _ _ => report.beside i = report'.beside i) (Lockstep.Lost (Apart i same)) := by
  refine Alike.then (record_apart _ _ _ _ _ _ _ _) (Lockstep.lost_of _ _) fun _ => ?_
  refine Paired.bind ((apart_lockstep h).runPoliciesBy_paired turns branches) fun l l' => ?_
  refine Alike.then (record_apart l l' _ _ _ _ _ _) (Lockstep.lost_of l l') fun _ => ?_
  exact paired_pure fun _ _ hapart => congrArg Ledger.actions hapart.1

omit h

/-- Two stores that stay as they are part on a run if their answers to all other requests are the same. -/
theorem apartOn_of_tables (i : Int) (answers answers' : ActionKind → Int → Except HostError Unit)
    (hothers : ∀ kind j, j ≠ i → answers kind j = answers' kind j) (now : Stamp) (workers : Nat) :
    ApartOn i ((RunStore.governor (fun kind j S => (answers kind j, S)) now).withWorkers workers)
      ((RunStore.governor (fun kind j S => (answers' kind j, S)) now).withWorkers workers) (· = ·) where
  settings := rfl
  workers := rfl
  rehearsal := rfl
  pageLimit := rfl
  page := RunStore.governor_page_alike (fun kind j S => (answers kind j, S)) (fun kind j S => (answers' kind j, S)) now
  runsPage :=
    RunStore.governor_runsPage_alike (fun kind j S => (answers kind j, S)) (fun kind j S => (answers' kind j, S)) now
  clock := Act.alike_pure now
  request kind r hid := by
    refine Act.alike_of_same fun s d e hsame => ?_
    simp only [request_withWorkers, RunStore.governor_request, RunStore.request_apply, hothers kind r.id hid]
    exact ⟨trivial, hsame⟩
  answers_left kind r _ w' s d hsame :=
    ⟨answers kind r.id, d, by rw [request_withWorkers, RunStore.governor_request, RunStore.request_apply], hsame⟩
  answers_right kind r _ w s d hsame :=
    ⟨answers' kind r.id, d, by rw [request_withWorkers, RunStore.governor_request, RunStore.request_apply], hsame⟩

/-- A host that refuses every request for the run 1. -/
def busyFirst (_ : ActionKind) (i : Int) : Except HostError Unit :=
  if i = 1 then .error ⟨.transient, "busy"⟩ else .ok ()

/-- A governor with two workers and a host that stays as it is. -/
def governorOfTwo (answers : ActionKind → Int → Except HostError Unit) : Governor RunStore :=
  (RunStore.governor (fun kind j S => (answers kind j, S)) RunStore.march).withWorkers 2

def mainAction (policy : Policy) (kind : ActionKind) (i : Int) (reason : String) (x : ActionOutcome) : Action :=
  ⟨policy, kind, i, "build", "main", reason, x⟩

end Governor

end RunSteward
