import Mathlib.Data.List.Forall2
import RunSteward.Governance.Pool
import RunSteward.Proofs.Governance.Lockstep

/-!
# Pools in lockstep

Two passes that are in lockstep stay so when their branches are handled by pools of workers, if the workers of both take
the same turns. The tasks of the two pools are at the same point all the time, except that an action which was carried
out in one pass may be a repetition in the other, so that only one of them has a line to log (`StagesAlike`). One turn
keeps this (`turn_paired`), and so do the turns of a whole pass (`cancelInPool_paired`).
-/

namespace RunSteward.Governor

open Act

variable {σ τ : Type} {g : Governor σ} {g' : Governor τ} {R : Ledger → Ledger → Desk σ → Desk τ → Prop}

/-! ## Tasks at the same point -/

/-- Stages that are the same, but for the action that is to be logged. -/
inductive StagesAlike (R : Ledger → Ledger → Desk σ → Desk τ → Prop) : Stage → Stage → Prop where
  | same (stage : Stage) : StagesAlike R stage stage
  | telling {action action' : Option Action} (h : ToldAlike R action action') (runs : List WorkflowRun) :
      StagesAlike R (.telling action runs) (.telling action' runs)

/-- Tasks for the same branch, taken by the same worker, at the same point. -/
structure TasksAlike (R : Ledger → Ledger → Desk σ → Desk τ → Prop) (t t' : Task) : Prop where
  branch : t.branch = t'.branch
  worker : t.worker = t'.worker
  stage : StagesAlike R t.stage t'.stage

theorem TasksAlike.isHeldBy {t t' : Task} (h : TasksAlike R t t') (w : Nat) : t.isHeldBy w = t'.isHeldBy w := by
  obtain ⟨b, w', stage⟩ := t
  obtain ⟨b', w'', stage'⟩ := t'
  obtain ⟨rfl, rfl, hstage⟩ := h
  cases hstage with
  | same => rfl
  | telling => rfl

theorem TasksAlike.isWaiting {t t' : Task} (h : TasksAlike R t t') : t.isWaiting = t'.isWaiting := by
  rw [Task.isWaiting, Task.isWaiting, h.worker]

/-- The tasks of two pools, with the ledgers. -/
def PoolsAlike (R : Ledger → Ledger → Desk σ → Desk τ → Prop) (p q : Ledger × List Task) (d : Desk σ) (e : Desk τ) :
    Prop :=
  List.Forall₂ (TasksAlike R) p.2 q.2 ∧ R p.1 q.1 d e

section Lists

variable {α β : Type} {r : α → β → Prop} {xs : List α} {ys : List β}

theorem findIdx?_of_forall₂ {p : α → Bool} {q : β → Bool} (h : List.Forall₂ r xs ys) (hpq : ∀ x y, r x y → p x = q y) :
    xs.findIdx? p = ys.findIdx? q := by
  induction h with
  | nil => rfl
  | cons hxy _ ih => rw [List.findIdx?_cons, List.findIdx?_cons, hpq _ _ hxy, ih]

theorem getElem?_of_forall₂ (h : List.Forall₂ r xs ys) (i : Nat) :
    (xs[i]? = none ∧ ys[i]? = none) ∨ ∃ x y, xs[i]? = some x ∧ ys[i]? = some y ∧ r x y := by
  induction h generalizing i with
  | nil => exact .inl ⟨rfl, rfl⟩
  | cons hxy _ ih =>
    cases i with
    | zero => exact .inr ⟨_, _, rfl, rfl, hxy⟩
    | succ i => simpa using ih i

theorem forall₂_set {x : α} {y : β} (h : List.Forall₂ r xs ys) (hxy : r x y) (i : Nat) :
    List.Forall₂ r (xs.set i x) (ys.set i y) := by
  induction h generalizing i with
  | nil => exact .nil
  | cons hhead htail ih =>
    cases i with
    | zero => exact .cons hxy htail
    | succ i => exact .cons hhead (ih i)

end Lists

namespace Lockstep

variable (h : Lockstep g g' R) (l l' : Ledger)
include h

/-! ## One step -/

theorem toldAlike_self (action : Option Action) : ToldAlike R action action := by
  intro l l'
  cases action with
  | none => exact alike_pure ()
  | some a => exact h.record l l' _ _ _

theorem advance_paired (filter : RunFilter) {stage stage' : Stage} (hstage : StagesAlike R stage stage') :
    Paired (R l l') (g.advance filter l stage) (g'.advance filter l' stage')
      (fun p q d e => StagesAlike R p.2 q.2 ∧ R p.1 q.1 d e) (Lost R) := by
  have hended : ∀ stage : Stage, Paired (R l l') (pure (l, stage) : Act σ _) (pure (l', stage) : Act τ _)
      (fun p q d e => StagesAlike R p.2 q.2 ∧ R p.1 q.1 d e) (Lost R) := fun stage =>
    paired_pure fun _ _ hR => ⟨.same stage, hR⟩
  cases hstage with
  | telling htold runs =>
    exact Alike.then (htold l l') (lost_of l l') fun _ => hended (.cancelling runs)
  | same =>
    rcases stage with ⟨found, cursor, _ | pages⟩ | ⟨e | runs⟩ | ⟨_ | ⟨r, rs⟩⟩ | ⟨action, runs⟩ | how
    · exact hended _
    · refine Alike.then (h.page l l' (.runs filter) cursor).attempt.outcomes (lost_of l l') fun answer => ?_
      rcases answer with e | e | ⟨items, _ | next⟩
      · exact hended _
      · exact hended _
      · exact hended _
      · exact hended _
    · exact Alike.then (h.record l l' _ _ _) (lost_of l l') fun _ => hended _
    · exact Alike.then (h.record l l' _ _ _) (lost_of l l') fun _ => hended _
    · exact hended _
    · refine Paired.bind (h.enact l l' ⟨.duplicateQueued, .cancel, .superseded, r⟩).outcome fun a b => ?_
      intro s d e hagree
      cases hagree with
      | result hdone => exact .result ⟨.telling hdone.2 rs, hdone.1⟩
      | failure f hR => exact .result ⟨.same _, hR⟩
    · exact Alike.then (h.toldAlike_self action l l') (lost_of l l') fun _ => hended (.cancelling runs)
    · exact hended _

/-- In one turn two pools do the same. -/
theorem turn_paired {tasks tasks' : List Task} (htasks : List.Forall₂ (TasksAlike R) tasks tasks') (w : Nat) :
    Paired (R l l') (g.turn l tasks w) (g'.turn l' tasks' w) (PoolsAlike R) (Lost R) := by
  have hidle : Paired (R l l') (pure (l, tasks) : Act σ _) (pure (l', tasks') : Act τ _) (PoolsAlike R) (Lost R) :=
    paired_pure fun _ _ hR => ⟨htasks, hR⟩
  have hplace : Task.place? tasks' w = Task.place? tasks w := by
    unfold Task.place?
    rw [findIdx?_of_forall₂ htasks fun t t' ht => ht.isHeldBy w,
      findIdx?_of_forall₂ htasks fun t t' ht => ht.isWaiting]
  unfold turn
  rw [h.workers, hplace]
  split
  · exact hidle
  · rcases Task.place? tasks w with _ | i
    · exact hidle
    · rcases getElem?_of_forall₂ htasks i with ⟨hnone, hnone'⟩ | ⟨t, t', hsome, hsome', ht⟩
      · simpa only [Option.bind_some, hnone, hnone', Option.map_none] using hidle
      · simp only [Option.bind_some, hsome, hsome', Option.map_some, ← ht.branch]
        refine Paired.bind ((h.advance_paired l l' _ ht.stage).within _) fun p q => ?_
        refine paired_pure fun _ _ hdone => ⟨?_, hdone.2⟩
        have hmoved : TasksAlike R ⟨t.branch, some w, p.2⟩ ⟨t.branch, some w, q.2⟩ := ⟨rfl, rfl, hdone.1⟩
        exact forall₂_set htasks hmoved i

theorem takeTurns_paired (turns : List Nat) {tasks tasks' : List Task}
    (htasks : List.Forall₂ (TasksAlike R) tasks tasks') :
    Paired (R l l') (g.takeTurns l tasks turns) (g'.takeTurns l' tasks' turns) (PoolsAlike R) (Lost R) := by
  induction turns generalizing l l' tasks tasks' with
  | nil => exact paired_pure fun _ _ hR => ⟨htasks, hR⟩
  | cons w turns ih =>
    refine Paired.bind (h.turn_paired l l' htasks w) fun p q => ?_
    rintro s d e ⟨htasks, hR⟩
    exact ih p.1 q.1 htasks s d e hR

/-! ## The rest of the work -/

theorem finishListed_paired (filter : RunFilter) (answer : Except HostError (List WorkflowRun)) :
    Paired (R l l') (g.finishListed filter l answer) (g'.finishListed filter l' answer) (Beside R) (Lost R) := by
  cases answer with
  | error e => exact Alike.then (h.record l l' _ _ _) (lost_of l l') fun _ => paired_pure fun _ _ hR => ⟨rfl, hR⟩
  | ok runs =>
    exact Alike.then (h.record l l' _ _ _) (lost_of l l') fun _ => h.workalike.cancelEach l l' (duplicateRuns runs)

theorem finish_paired (filter : RunFilter) {stage stage' : Stage} (hstage : StagesAlike R stage stage') :
    Paired (R l l') (g.finish filter l stage) (g'.finish filter l' stage') (Beside R) (Lost R) := by
  have htold : ∀ {action action' : Option Action}, ToldAlike R action action' → ∀ runs,
      Paired (R l l') (g.finish filter l (.telling action runs)) (g'.finish filter l' (.telling action' runs))
        (Beside R) (Lost R) := fun h' runs =>
    Alike.then (h' l l') (lost_of l l') fun _ => h.workalike.cancelEach l l' runs
  cases hstage with
  | telling h' runs => exact htold h' runs
  | same =>
    cases stage with
    | listing found cursor pages =>
      refine Alike.then (Host.gatherFrom_alike (h.page l l' (.runs filter)) pages cursor).outcomes (lost_of l l')
        fun answer => ?_
      rcases answer with e | ⟨runs, _ | e⟩
      · exact paired_pure fun _ _ hR => ⟨rfl, hR⟩
      · exact h.finishListed_paired l l' filter _
      · exact h.finishListed_paired l l' filter _
    | listed answer => exact h.finishListed_paired l l' filter answer
    | cancelling runs => exact h.workalike.cancelEach l l' runs
    | telling action runs => exact htold (h.toldAlike_self action) runs
    | ended how => exact paired_pure fun _ _ hR => ⟨rfl, hR⟩

theorem finishAll_paired {tasks tasks' : List Task} (htasks : List.Forall₂ (TasksAlike R) tasks tasks') :
    Paired (R l l') (g.finishAll l tasks) (g'.finishAll l' tasks') (Beside R) (Lost R) := by
  induction htasks generalizing l l' with
  | nil => exact paired_pure fun _ _ hR => ⟨rfl, hR⟩
  | @cons t t' _ _ ht _ ih =>
    unfold finishAll
    rw [← ht.branch, ← ht.worker]
    refine Paired.bind ((h.finish_paired l l' _ ht.stage).within _) fun ⟨l, ended⟩ ⟨l', ended'⟩ => ?_
    rintro s d e ⟨rfl, hfirst⟩
    refine Paired.bind (ih l l') (fun ⟨l, later⟩ ⟨l', later'⟩ => ?_) s d e hfirst
    rintro s d e ⟨rfl, hR⟩
    cases ended with
    | ok _ => exact .result ⟨rfl, hR⟩
    | error f => exact .result ⟨rfl, hR⟩

/-! ## Whole pools -/

/-- **Pools whose workers take the same turns stay in lockstep.** -/
theorem cancelInPool_paired (turns : List Nat) (branches : List Branch) :
    Paired (R l l') (g.cancelInPool turns l branches) (g'.cancelInPool turns l' branches) (Beside R) (Lost R) := by
  have hfresh : g'.taskOf = g.taskOf := by
    funext b
    rw [taskOf, taskOf, h.pageLimit]
  have htasks : List.Forall₂ (TasksAlike R) (branches.map g.taskOf) (branches.map g'.taskOf) := by
    rw [hfresh, List.forall₂_same]
    exact fun t _ => ⟨rfl, rfl, .same t.stage⟩
  refine Paired.bind (h.takeTurns_paired l l' turns htasks) fun p q => ?_
  rintro s d e ⟨htasks, hR⟩
  exact h.finishAll_paired p.1 q.1 htasks s d e hR

theorem runPoliciesBy_paired (turns : List Nat) (branches : List Branch) :
    Paired (R {} {}) (g.runPoliciesBy (g.cancelInPool turns {} branches))
      (g'.runPoliciesBy (g'.cancelInPool turns {} branches)) R (Lost R) :=
  h.workalike.runPoliciesBy_paired (h.cancelInPool_paired {} {} turns branches)

end Lockstep

end RunSteward.Governor
