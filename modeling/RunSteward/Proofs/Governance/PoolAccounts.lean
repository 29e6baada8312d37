import Mathlib.Data.List.Perm.Basic
import RunSteward.Governance.Pool
import RunSteward.Proofs.Governance.Accounts

/-!
# The accounts of a pool

A worker deals an action while nobody else acts on the run, and tells it in its next step. In between other workers may
take
steps, so the lines of a pool need not be in the order of its actions. They are the same for each worker, and in the
order in which it dealt them (`SameByWorker`): of two tasks that are held at the same time no worker holds both
(`Manned`), and so it has told all that it dealt before. This is kept by each turn (`turn_accounts`), and holds of the
whole
pool (`cancelInPool_accounts`).
-/

namespace RunSteward

open Act

variable {σ : Type}

/-! ## Actions of workers -/

/-- The same entries for each worker, in the same order. -/
def SameByWorker (xs ys : List (Nat × Action)) : Prop :=
  ∀ w, xs.filter (fun x => x.1 = w) = ys.filter fun y => y.1 = w

namespace SameByWorker

variable {xs ys zs xs' ys' : List (Nat × Action)}

theorem refl (xs : List (Nat × Action)) : SameByWorker xs xs :=
  fun _ => rfl

theorem symm (h : SameByWorker xs ys) : SameByWorker ys xs :=
  fun w => (h w).symm

theorem trans (h : SameByWorker xs ys) (h' : SameByWorker ys zs) : SameByWorker xs zs :=
  fun w => (h w).trans (h' w)

theorem append (h : SameByWorker xs ys) (h' : SameByWorker xs' ys') : SameByWorker (xs ++ xs') (ys ++ ys') := by
  intro w
  rw [List.filter_append, List.filter_append, h w, h' w]

theorem perm (h : SameByWorker xs ys) : xs.Perm ys := by
  refine List.perm_iff_count.mpr fun x => ?_
  have hcount : ∀ zs : List (Nat × Action), zs.count x = (zs.filter fun z => z.1 = x.1).count x := fun zs =>
    (List.count_filter (by simp)).symm
  rw [hcount xs, hcount ys, h x.1]

theorem swap {w : Nat} (hxs : ∀ x ∈ xs, x.1 = w) (hys : ∀ y ∈ ys, y.1 ≠ w) : SameByWorker (xs ++ ys) (ys ++ xs) := by
  intro v
  rw [List.filter_append, List.filter_append]
  by_cases hv : v = w
  · have hnone : ys.filter (fun y => y.1 = v) = [] :=
      List.filter_eq_nil_iff.mpr fun y hy => by simpa [hv] using hys y hy
    rw [hnone, List.append_nil, List.nil_append]
  · have hnone : xs.filter (fun x => x.1 = v) = [] :=
      List.filter_eq_nil_iff.mpr fun x hx => by simpa [hxs x hx] using Ne.symm hv
    rw [hnone, List.append_nil, List.nil_append]

theorem eq_of_single (h : SameByWorker xs ys) (hxs : ∀ x ∈ xs, x.1 = 0) : xs = ys := by
  have hys : ∀ y ∈ ys, y.1 = 0 := fun y hy => hxs y (h.perm.mem_iff.mpr hy)
  rw [← List.filter_eq_self.mpr fun x hx => decide_eq_true (hxs x hx), h 0,
    List.filter_eq_self.mpr fun y hy => decide_eq_true (hys y hy)]

end SameByWorker

/-- Entries of workers, with the scopes that they work in. -/
def inWorkers (s : Scope) (xs : List (Nat × Action)) : List (Scope × Action) :=
  xs.map fun x => (s.worker x.1, x.2)

/-! ## Tasks -/

/-- The action that is to be told next, if one is. -/
def Stage.untold : Stage → List Action
  | .telling action _ => action.toList
  | _ => []

/-- What is untold of some tasks; a task that waits counts for the first worker. -/
def untold (tasks : List Task) : List (Nat × Action) :=
  tasks.flatMap fun t => t.stage.untold.map (t.worker.getD 0, ·)

namespace Governor

variable {α β : Type} {g : Governor σ} {toFiles : Bool} {l : Ledger}

/-- Tasks that have been taken by workers of the pool in order, and of which each worker holds one at most. -/
structure Manned (g : Governor σ) (tasks : List Task) : Prop where
  waiting : ∀ t ∈ tasks, t.isWaiting = true → t.stage.untold = []
  hired : ∀ t ∈ tasks, t.worker.getD 0 < max 1 g.workers
  taken : tasks.Pairwise fun t u => t.isWaiting = true → u.isWaiting = true
  apart : tasks.Pairwise fun t u => ∀ w, t.isHeldBy w = true → u.isHeldBy w = false

theorem Manned.tail {t : Task} {ts : List Task} (h : g.Manned (t :: ts)) : g.Manned ts where
  waiting u hu := h.waiting u (by simp [hu])
  hired u hu := h.hired u (by simp [hu])
  taken := h.taken.of_cons
  apart := h.apart.of_cons

theorem manned_fresh (branches : List Branch) : g.Manned (branches.map g.taskOf) where
  waiting t ht _ := by
    obtain ⟨b, -, rfl⟩ := List.mem_map.mp ht
    rfl
  hired t ht := by
    obtain ⟨b, -, rfl⟩ := List.mem_map.mp ht
    exact Nat.lt_of_lt_of_le Nat.zero_lt_one (Nat.le_max_left _ _)
  taken := List.pairwise_map.mpr (List.pairwise_of_forall fun _ _ _ => rfl)
  apart := List.pairwise_map.mpr (List.pairwise_of_forall fun _ _ _ => nofun)

theorem untold_fresh (branches : List Branch) : untold (branches.map g.taskOf) = [] := by
  rw [untold, List.flatMap_map]
  exact List.flatMap_eq_nil_iff.mpr fun _ _ => rfl

theorem exists_held {tasks : List Task} (h : ∀ t ∈ tasks, t.isWaiting = true → t.stage.untold = []) {x : Nat × Action}
    (hx : x ∈ untold tasks) : ∃ t ∈ tasks, t.isHeldBy x.1 = true := by
  obtain ⟨t, ht, hx⟩ := List.mem_flatMap.mp hx
  obtain ⟨a, ha, rfl⟩ := List.mem_map.mp hx
  refine ⟨t, ht, ?_⟩
  rcases hworker : t.worker with _ | w
  · have hnone := h t ht (by rw [Task.isWaiting, hworker]; rfl)
    rw [hnone] at ha
    cases ha
  · rcases hstage : t.stage with _ | _ | _ | _ | how <;> rw [hstage] at ha
    case telling => simp [Task.isHeldBy, hworker, hstage]
    all_goals cases ha

theorem place?_eq_some {tasks : List Task} {w i : Nat} (h : Task.place? tasks w = some i) :
    ∃ front t back, tasks = front ++ t :: back ∧ front.length = i ∧
      ((t.isHeldBy w = true ∧ ∀ u ∈ front, u.isHeldBy w = false) ∨
        (t.isWaiting = true ∧ (∀ u ∈ tasks, u.isHeldBy w = false) ∧ ∀ u ∈ front, u.isWaiting = false)) := by
  have hfirst : ∀ {p : Task → Bool}, tasks.findIdx? p = some i →
      ∃ front t back, tasks = front ++ t :: back ∧ front.length = i ∧ p t = true ∧ ∀ u ∈ front, p u = false := by
    intro p hp
    obtain ⟨hi, hsome, hnone⟩ := List.findIdx?_eq_some_iff_getElem.mp hp
    refine ⟨tasks.take i, tasks[i], tasks.drop (i + 1), ?_, List.length_take_of_le hi.le, hsome, fun u hu => ?_⟩
    · rw [List.getElem_cons_drop, List.take_append_drop]
    · obtain ⟨j, hj, rfl⟩ := List.mem_take_iff_getElem.mp hu
      simpa using hnone j (by omega)
  rw [Task.place?] at h
  rcases hheld : tasks.findIdx? (Task.isHeldBy w) with _ | j <;> rw [hheld] at h
  · obtain ⟨front, t, back, heq, hlength, hwaiting, hfront⟩ := hfirst h
    have hnone : ∀ u ∈ tasks, u.isHeldBy w = false := by simpa using List.findIdx?_eq_none_iff.mp hheld
    exact ⟨front, t, back, heq, hlength, .inr ⟨hwaiting, hnone, hfront⟩⟩
  · obtain rfl : j = i := Option.some.inj h
    obtain ⟨front, t, back, heq, hlength, ht, hfront⟩ := hfirst hheld
    exact ⟨front, t, back, heq, hlength, .inl ⟨ht, hfront⟩⟩

/-! ## Accounts of pools -/

/-- An act that is done in a pool, where something was untold before: all that is told is told by the worker that dealt
it, and in order. -/
def PoolAccounts (g : Governor σ) (toFiles : Bool) (l : Ledger) (owed : List (Nat × Action)) (x : Act σ α)
    (of : α → Ledger × List (Nat × Action)) : Prop :=
  ∀ s d, ∃ records told dealt, (x s d).2.log.toList = d.log.toList ++ records ∧
    Booked toFiles records (inWorkers s told) ∧ g.Plans (dealt.map Prod.snd) ∧ (∀ y ∈ told, y.1 < max 1 g.workers) ∧
    ∀ a, (x s d).1 = .ok a → (of a).1.actions = l.actions ++ dealt.map Prod.snd ∧
      SameByWorker (owed ++ dealt) (told ++ (of a).2)

variable {owed : List (Nat × Action)} {x : Act σ α} {of : α → Ledger × List (Nat × Action)}

theorem poolAccounts_pure {a : α} (h : of a = (l, owed)) : g.PoolAccounts toFiles l owed (pure a : Act σ α) of :=
  fun _ d => ⟨[], [], [], (List.append_nil _).symm, booked_foreign nofun, nofun, nofun, by
    rintro _ ⟨⟩
    rw [h]
    exact ⟨(List.append_nil _).symm, by simpa using SameByWorker.refl owed⟩⟩

theorem PoolAccounts.bind {f : α → Act σ β} {of' : β → Ledger × List (Nat × Action)}
    (hx : g.PoolAccounts toFiles l owed x of)
    (hf : ∀ s d a d', x s d = (.ok a, d') → g.PoolAccounts toFiles (of a).1 (of a).2 (f a) of') :
    g.PoolAccounts toFiles l owed (x >>= f) of' := by
  intro s d
  obtain ⟨before, told, dealt, hbefore, hbooked, hplans, hhired, hof⟩ := hx s d
  rcases hend : x s d with ⟨e | a, d'⟩ <;> rw [hend] at hbefore hof
  · rw [bind_of_error f hend]
    exact ⟨before, told, dealt, hbefore, hbooked, hplans, hhired, fun _ h => by cases h⟩
  · obtain ⟨after, told', dealt', hafter, hbooked', hplans', hhired', hof'⟩ := hf s d a d' hend s d'
    obtain ⟨hledger, hsame⟩ := hof a rfl
    rw [bind_of_ok f hend]
    refine ⟨before ++ after, told ++ told', dealt ++ dealt', ?_, ?_, ?_, ?_, fun b hb => ?_⟩
    · rw [hafter, hbefore, List.append_assoc]
    · rw [inWorkers, List.map_append]
      exact hbooked.append hbooked'
    · rw [List.map_append]
      exact plans_append hplans hplans'
    · exact List.forall_mem_append.mpr ⟨hhired, hhired'⟩
    · obtain ⟨hledger', hsame'⟩ := hof' b hb
      constructor
      · rw [hledger', hledger, List.map_append, List.append_assoc]
      · have hfirst : SameByWorker ((owed ++ dealt) ++ dealt') ((told ++ (of a).2) ++ dealt') :=
          hsame.append (.refl dealt')
        have hthen : SameByWorker (told ++ ((of a).2 ++ dealt')) (told ++ (told' ++ (of' b).2)) :=
          (SameByWorker.refl told).append hsame'
        rw [List.append_assoc, List.append_assoc] at hfirst
        rw [List.append_assoc]
        exact hfirst.trans hthen

/-- What one worker does is accounted for in the pool, where others have something to tell, too. -/
theorem Accounts.inWorker {b : Books} {of : α → Books} (hx : g.Accounts toFiles b x of) {w : Nat}
    (hw : w < max 1 g.workers) {before after : List (Nat × Action)} (hbefore : ∀ y ∈ before, y.1 ≠ w)
    (hafter : ∀ y ∈ after, y.1 ≠ w) :
    g.PoolAccounts toFiles b.ledger (before ++ b.untold.map (w, ·) ++ after) (Act.inWorker w x) fun a =>
      ((of a).ledger, before ++ (of a).untold.map (w, ·) ++ after) := by
  intro s d
  obtain ⟨records, told, dealt, hlog, hbooked, hplans, hof⟩ := hx (s.worker w) d
  have hself : ∀ actions : List Action, ∀ y ∈ actions.map (w, ·), y.1 = w := by simp
  have hunmap : (dealt.map (w, ·)).map Prod.snd = dealt := by simp [Function.comp_def]
  refine ⟨records, told.map (w, ·), dealt.map (w, ·), hlog, ?_, by rwa [hunmap], fun y hy => ?_, fun a ha => ?_⟩
  · rw [inWorkers, List.map_map]
    exact hbooked
  · rw [hself told y hy]
    exact hw
  · obtain ⟨hledger, huntold⟩ := hof a ha
    rw [hunmap]
    refine ⟨hledger, ?_⟩
    have hmapped : b.untold.map (w, ·) ++ dealt.map (w, ·) = told.map (w, ·) ++ (of a).untold.map (w, ·) := by
      rw [← List.map_append, huntold, List.map_append]
    have hlater : SameByWorker (before ++ b.untold.map (w, ·) ++ after ++ dealt.map (w, ·))
        (before ++ b.untold.map (w, ·) ++ (dealt.map (w, ·) ++ after)) := by
      rw [List.append_assoc _ after]
      exact (SameByWorker.refl _).append (SameByWorker.swap (hself dealt) hafter).symm
    have hsooner : SameByWorker (before ++ told.map (w, ·) ++ ((of a).untold.map (w, ·) ++ after))
        (told.map (w, ·) ++ before ++ ((of a).untold.map (w, ·) ++ after)) :=
      (SameByWorker.swap (hself told) hbefore).symm.append (.refl _)
    refine hlater.trans ?_
    rw [← List.append_assoc, List.append_assoc before, hmapped]
    simpa only [List.append_assoc] using hsooner

/-! ## One task -/

theorem advance_accounts (hg : g.Discreet) (filter : RunFilter) (l : Ledger) (stage : Stage) :
    g.Accounts toFiles ⟨l, stage.untold⟩ (g.advance filter l stage) fun p => ⟨p.1, p.2.untold⟩ := by
  rcases stage with ⟨found, cursor, _ | pages⟩ | ⟨e | runs⟩ | ⟨_ | ⟨r, rs⟩⟩ | ⟨action, runs⟩ | how
  · exact accounts_pure rfl
  · refine accounts_after (fun s => (hg.page s _ cursor).attempt.outcome) fun answer => ?_
    rcases answer with e | e | ⟨items, _ | next⟩
    all_goals exact accounts_pure rfl
  · exact accounts_after (fun _ => logs_foreign (by decide) (by decide)) fun _ => accounts_pure rfl
  · exact accounts_after (fun _ => logs_foreign (by decide) (by decide)) fun _ => accounts_pure rfl
  · exact accounts_pure rfl
  · refine (enact_accounts hg l ⟨.duplicateQueued, .cancel, .superseded, r⟩).bind fun ended => ?_
    rcases ended with e | ⟨l', action⟩
    · exact accounts_pure rfl
    · exact accounts_pure rfl
  · exact (tell_accounts l action).bind fun _ => accounts_pure rfl
  · exact accounts_pure rfl

theorem finishListed_accounts (hg : g.Discreet) (filter : RunFilter) (l : Ledger)
    (answer : Except HostError (List WorkflowRun)) :
    g.Accounts toFiles l.closed (g.finishListed filter l answer) fun p => p.1.closed := by
  cases answer with
  | error e => exact accounts_after (fun _ => logs_foreign (by decide) (by decide)) fun _ => accounts_pure rfl
  | ok runs =>
    exact accounts_after (fun _ => logs_foreign (by decide) (by decide)) fun _ =>
      cancelEach_accounts hg l (duplicateRuns runs)

theorem finish_accounts (hg : g.Discreet) (filter : RunFilter) (l : Ledger) (stage : Stage) :
    g.Accounts toFiles ⟨l, stage.untold⟩ (g.finish filter l stage) fun p => p.1.closed := by
  cases stage with
  | listing found cursor pages =>
    refine accounts_after (fun s => (gatherFrom_foreign hg _ pages cursor s).outcome) fun answer => ?_
    rcases answer with e | ⟨runs, _ | e⟩
    · exact accounts_pure rfl
    · exact finishListed_accounts hg filter l _
    · exact finishListed_accounts hg filter l _
  | listed answer => exact finishListed_accounts hg filter l answer
  | cancelling runs => exact cancelEach_accounts hg l runs
  | telling action runs => exact (tell_accounts l action).bind fun _ => cancelEach_accounts hg l runs
  | ended how => exact accounts_pure rfl

/-! ## Turns -/

variable {tasks : List Task}

theorem turn_cases (hm : g.Manned tasks) (l : Ledger) (w : Nat) :
    g.turn l tasks w = pure (l, tasks) ∨
      ∃ front t back, tasks = front ++ t :: back ∧ w < g.workers ∧ (t.isWaiting = true ∨ t.worker = some w) ∧
        (∀ u ∈ front, u.isHeldBy w = false ∧ u.isWaiting = false) ∧ (∀ u ∈ back, u.isHeldBy w = false) ∧
        g.turn l tasks w = inWorker w (g.advance (.queuedOn t.branch) l t.stage) >>= fun p =>
          pure (p.1, front ++ ⟨t.branch, some w, p.2⟩ :: back) := by
  by_cases hw : g.workers ≤ w
  · exact .inl (by rw [turn, if_pos hw])
  rcases hplace : Task.place? tasks w with _ | i
  · exact .inl (by rw [turn, if_neg hw, hplace]; rfl)
  obtain ⟨front, t, back, rfl, rfl, hcase⟩ := place?_eq_some hplace
  have hturn : g.turn l (front ++ t :: back) w = inWorker w (g.advance (.queuedOn t.branch) l t.stage) >>= fun p =>
      pure (p.1, front ++ ⟨t.branch, some w, p.2⟩ :: back) := by
    rw [turn, if_neg hw, hplace]
    simp
  obtain ⟨-, htaken, -⟩ := List.pairwise_append.mp hm.taken
  obtain ⟨-, hapart, -⟩ := List.pairwise_append.mp hm.apart
  refine .inr ⟨front, t, back, rfl, by omega, ?_⟩
  rcases hcase with ⟨hheld, hfront⟩ | ⟨hwaiting, hnone, hfront⟩
  · have hworker : t.worker = some w := by
      simp only [Task.isHeldBy, Bool.and_eq_true, beq_iff_eq] at hheld
      exact hheld.1
    refine ⟨.inr hworker, fun u hu => ⟨hfront u hu, ?_⟩, fun u hu => ?_, hturn⟩
    · -- a task that waits stands before no task that is held
      refine Bool.eq_false_iff.mpr fun hwaits => ?_
      have hwaiting := (List.pairwise_append.mp hm.taken).2.2 u hu t (by simp) hwaits
      rw [Task.isWaiting, hworker] at hwaiting
      cases hwaiting
    · exact (List.pairwise_cons.mp hapart).1 u hu w hheld
  · exact ⟨.inl hwaiting, fun u hu => ⟨hnone u (by simp [hu]), hfront u hu⟩, fun u hu => hnone u (by simp [hu]), hturn⟩

theorem turn_manned (hm : g.Manned tasks) {w : Nat} {s : Scope} {d d' : Desk σ} {p : Ledger × List Task}
    (h : g.turn l tasks w s d = (.ok p, d')) : g.Manned p.2 := by
  obtain hidle | ⟨front, t, back, rfl, hw, -, hfront, hback, hturn⟩ := turn_cases hm l w
  · rw [hidle] at h
    obtain rfl := Except.ok.inj (congrArg Prod.fst h)
    exact hm
  rw [hturn] at h
  obtain ⟨q, d₁, -, hdone⟩ := ok_of_bind h
  obtain rfl := Except.ok.inj (congrArg Prod.fst hdone)
  have hold : ∀ u ∈ front ++ ⟨t.branch, some w, q.2⟩ :: back, u = ⟨t.branch, some w, q.2⟩ ∨ u ∈ front ++ t :: back := by
    intro u hu
    simp only [List.mem_append, List.mem_cons] at hu ⊢
    tauto
  obtain ⟨htaken, htaken', hbefore⟩ := List.pairwise_append.mp hm.taken
  obtain ⟨hapart, hapart', hbeside⟩ := List.pairwise_append.mp hm.apart
  refine ⟨fun u hu hwaits => ?_, fun u hu => ?_, ?_, ?_⟩
  · obtain rfl | hu := hold u hu
    · cases hwaits
    · exact hm.waiting u hu hwaits
  · obtain rfl | hu := hold u hu
    · exact Nat.lt_of_lt_of_le hw (Nat.le_max_right _ _)
    · exact hm.hired u hu
  · refine List.pairwise_append.mpr ⟨htaken, List.pairwise_cons.mpr ⟨nofun, htaken'.of_cons⟩, fun u hu v hv hwaits => ?_⟩
    rw [(hfront u hu).2] at hwaits
    cases hwaits
  · refine List.pairwise_append.mpr ⟨hapart, List.pairwise_cons.mpr ⟨fun u hu v hv => ?_, hapart'.of_cons⟩, ?_⟩
    · obtain rfl : w = v := by
        simp only [Task.isHeldBy, Bool.and_eq_true, beq_iff_eq, Option.some.injEq] at hv
        exact hv.1
      exact hback u hu
    · intro u hu v hv x hx
      obtain rfl | hv := List.mem_cons.mp hv
      · refine Bool.eq_false_iff.mpr fun hheld => ?_
        obtain rfl : w = x := by
          simp only [Task.isHeldBy, Bool.and_eq_true, beq_iff_eq, Option.some.injEq] at hheld
          exact hheld.1
        rw [(hfront u hu).1] at hx
        cases hx
      · exact hbeside u hu v (by simp [hv]) x hx

theorem untold_ne {w : Nat} (hwaiting : ∀ t ∈ tasks, t.isWaiting = true → t.stage.untold = [])
    (h : ∀ t ∈ tasks, t.isHeldBy w = false) : ∀ y ∈ untold tasks, y.1 ≠ w := by
  rintro y hy rfl
  obtain ⟨t, ht, hheld⟩ := exists_held hwaiting hy
  rw [h t ht] at hheld
  cases hheld

/-- **One turn** deals or tells an action of the worker that takes it. -/
theorem turn_accounts (hg : g.Discreet) (hm : g.Manned tasks) (l : Ledger) (w : Nat) :
    g.PoolAccounts toFiles l (untold tasks) (g.turn l tasks w) fun p => (p.1, untold p.2) := by
  obtain hidle | ⟨front, t, back, rfl, hw, hmine, hfront, hback, hturn⟩ := turn_cases hm l w
  · rw [hidle]
    exact poolAccounts_pure rfl
  have hbegun : untold (front ++ t :: back) = untold front ++ t.stage.untold.map (w, ·) ++ untold back := by
    rw [untold, List.flatMap_append, List.flatMap_cons, ← List.append_assoc]
    rcases hmine with hwaits | hworker
    · rw [hm.waiting t (by simp) hwaits]
      rfl
    · rw [hworker]
      rfl
  have hdone : ∀ stage, untold (front ++ ⟨t.branch, some w, stage⟩ :: back) =
      untold front ++ stage.untold.map (w, ·) ++ untold back := by
    intro stage
    rw [untold, List.flatMap_append, List.flatMap_cons, ← List.append_assoc]
    rfl
  have hbefore := untold_ne (fun u hu => hm.waiting u (by simp [hu])) fun u hu => (hfront u hu).1
  have hafter := untold_ne (fun u hu => hm.waiting u (by simp [hu])) hback
  rw [hturn, hbegun]
  refine ((advance_accounts hg _ l t.stage).inWorker (Nat.lt_of_lt_of_le hw (Nat.le_max_right _ _)) hbefore
    hafter).bind fun s d p d' _ => poolAccounts_pure ?_
  rw [hdone]

theorem takeTurns_accounts (hg : g.Discreet) (hm : g.Manned tasks) (l : Ledger) (turns : List Nat) :
    g.PoolAccounts toFiles l (untold tasks) (g.takeTurns l tasks turns) fun p => (p.1, untold p.2) := by
  induction turns generalizing l tasks with
  | nil => exact poolAccounts_pure rfl
  | cons w turns ih =>
    exact (turn_accounts hg hm l w).bind fun s d p d' hend => ih (turn_manned hm hend) p.1

theorem takeTurns_manned (hm : g.Manned tasks) {turns : List Nat} {s : Scope} {d d' : Desk σ} {p : Ledger × List Task}
    (h : g.takeTurns l tasks turns s d = (.ok p, d')) : g.Manned p.2 := by
  induction turns generalizing l tasks d with
  | nil =>
    obtain rfl := Except.ok.inj (congrArg Prod.fst h)
    exact hm
  | cons w turns ih =>
    obtain ⟨q, d₁, hturn, hrest⟩ := ok_of_bind h
    exact ih (turn_manned hm hturn) hrest

/-! ## Whole pools -/

/-- What is left of some tasks is done one after another, and each worker first tells what it has dealt. -/
theorem finishAll_accounts (hg : g.Discreet) (hm : g.Manned tasks) (l : Ledger) :
    g.PoolAccounts toFiles l (untold tasks) (g.finishAll l tasks) fun p => (p.1, []) := by
  induction tasks generalizing l with
  | nil => exact poolAccounts_pure rfl
  | cons t ts ih =>
    have hfirst : g.PoolAccounts toFiles l (untold (t :: ts))
        (inWorker (t.worker.getD 0) (g.finish (.queuedOn t.branch) l t.stage)) fun p => (p.1, untold ts) := by
      by_cases hended : ∃ how, t.stage = .ended how
      · obtain ⟨how, hended⟩ := hended
        have hnothing : untold (t :: ts) = untold ts := by
          rw [untold, List.flatMap_cons, hended]
          rfl
        rw [hended, hnothing]
        exact poolAccounts_pure rfl
      · have hothers : ∀ y ∈ untold ts, y.1 ≠ t.worker.getD 0 := by
          rcases hworker : t.worker with _ | w
          · -- nobody has taken a task behind one that waits
            have hwaits : t.isWaiting = true := by rw [Task.isWaiting, hworker]; rfl
            refine untold_ne hm.tail.waiting fun u hu => ?_
            have hfree := (List.pairwise_cons.mp hm.taken).1 u hu hwaits
            simp_all [Task.isHeldBy, Task.isWaiting]
          · have hheld : t.isHeldBy w = true := by
              rcases hstage : t.stage with _ | _ | _ | _ | how
              case ended => exact absurd ⟨how, hstage⟩ hended
              all_goals simp [Task.isHeldBy, hworker, hstage]
            exact untold_ne hm.tail.waiting fun u hu => (List.pairwise_cons.mp hm.apart).1 u hu w hheld
        have hwork : g.Accounts toFiles ⟨l, t.stage.untold⟩ (g.finish (.queuedOn t.branch) l t.stage) fun p => p.1.closed :=
          finish_accounts hg _ l _
        have hnone : ∀ y ∈ ([] : List (Nat × Action)), y.1 ≠ t.worker.getD 0 := nofun
        exact hwork.inWorker (hm.hired t (by simp)) hnone hothers
    unfold finishAll
    refine hfirst.bind fun s d p d' _ => (ih hm.tail p.1).bind fun s d q d' _ => ?_
    rcases p.2 with e | _
    · exact poolAccounts_pure rfl
    · exact poolAccounts_pure rfl

/-- **Whatever turns the workers take, each of them tells the actions that it deals**, all of them and in order. -/
theorem cancelInPool_accounts (hg : g.Discreet) (turns : List Nat) (l : Ledger) (branches : List Branch) :
    g.PoolAccounts toFiles l [] (g.cancelInPool turns l branches) fun p => (p.1, []) := by
  have hfresh := manned_fresh (g := g) branches
  rw [← untold_fresh (g := g) branches]
  refine (takeTurns_accounts hg hfresh l turns).bind fun s d p d' hend => ?_
  rw [untold_fresh]
  exact finishAll_accounts hg (takeTurns_manned hfresh hend) p.1

end Governor

end RunSteward
