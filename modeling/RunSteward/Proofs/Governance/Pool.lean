import RunSteward.Governance.Pool
import RunSteward.Proofs.Governance.Orders

/-!
# Schedules of a pool

A pass in which the workers take no turns before the rest of the work is done handles one branch after another
(`cancelInPool_nil`). What is left of a task is what it comes to when it is done step by step (`finish_advance`). So a
pool of one worker, which begins a task only after it has ended the one before, has no choice: whatever turns it takes,
the pass is the same (`runPassBy_of_single`).
-/

namespace RunSteward.Governor

open Act

variable {σ : Type} {g : Governor σ} {s : Scope} {d : Desk σ}

/-! ## The rest of the work on a branch -/

theorem fault_of_gatherFrom {host : Host σ} {listing : Listing} {limit : Nat} {cursor : Option Cursor} {e : Failure}
    (h : (host.gatherFrom listing limit cursor s d).1 = .error e) : ∃ f, e = .fault f := by
  induction limit generalizing cursor d with
  | zero => exact ⟨.endlessListing, (Except.error.inj h).symm⟩
  | succ limit ih =>
    rcases hpage : attempt (host.page listing cursor) s d with ⟨f | x | ⟨items, _ | next⟩, d'⟩
    · rw [Host.gatherFrom, bind_of_error _ hpage] at h
      obtain rfl := Except.error.inj h
      exact fault_of_attempt hpage
    · rw [Host.gatherFrom, bind_of_ok _ hpage] at h
      cases h
    · rw [Host.gatherFrom, bind_of_ok _ hpage] at h
      cases h
    · rw [Host.gatherFrom, bind_of_ok _ hpage] at h
      rcases hrest : host.gatherFrom listing limit (some next) s d' with ⟨e' | rest, d''⟩
      · dsimp only at h
        rw [bind_of_error _ hrest] at h
        obtain rfl := Except.error.inj h
        exact ih (by rw [hrest])
      · dsimp only at h
        rw [bind_of_ok _ hrest] at h
        cases h

/-- What is left of a task once its pages were gathered, with the runs that were found before. -/
theorem finish_listing {filter : RunFilter} {l : Ledger} {found : List WorkflowRun} {cursor : Option Cursor} {pages : Nat}
    {answer : Except Failure (List WorkflowRun × Option HostError)} {d' : Desk σ}
    (h : g.host.gatherFrom (.runs filter) pages cursor s d = (answer, d')) :
    g.finish filter l (.listing found cursor pages) s d =
      match answer with
      | .error e => (.ok (l, .error e), d')
      | .ok (_, some e) => g.finishListed filter l (.error e) s d'
      | .ok (runs, none) => g.finishListed filter l (.ok (found ++ runs)) s d' := by
  rw [finish, bind_outcome _ h]
  rcases answer with e | ⟨runs, _ | e⟩ <;> rfl

theorem finish_start (filter : RunFilter) (l : Ledger) :
    g.finish filter l (.listing [] none g.host.pageLimit) =
      g.cancelDuplicates filter l >>= fun p => pure (p.1, p.2.map fun _ => ()) := by
  funext s d
  rcases hgather : g.host.gatherFrom (.runs filter) g.host.pageLimit none s d with ⟨e | ⟨runs, _ | e⟩, d'⟩
  · obtain ⟨f, rfl⟩ := fault_of_gatherFrom (congrArg Prod.fst hgather)
    have hcollect : g.host.collect (.runs filter) s d = (.error (.fault f), d') := bind_of_error _ hgather
    have hlist : g.listRuns filter s d = (.error (.fault f), d') := bind_of_error _ (attempt_of_fault hcollect)
    have hwork : g.cancelDuplicates filter l s d = (.ok (l, .error (.fault f)), d') := bind_outcome _ hlist
    rw [finish_listing hgather, bind_of_ok _ hwork]
    rfl
  · have hcollect : g.host.collect (.runs filter) s d = (.ok runs, d') := bind_of_ok _ hgather
    have hlist : g.listRuns filter s d = (.ok (some runs), d') := bind_of_ok _ (attempt_of_ok hcollect)
    have hsame : ∀ p : Ledger × Except Failure Unit, (p.1, (p.2.map fun _ => runs).map fun _ => ()) = p := by
      rintro ⟨l, e | _⟩ <;> rfl
    rw [finish_listing hgather, cancelDuplicates, bind_assoc, bind_outcome _ hlist]
    simp only [bind_assoc, pure_bind, hsame, bind_pure]
    rfl
  · have hcollect : g.host.collect (.runs filter) s d = (.error (.host e), d') := bind_of_ok _ hgather
    have hlist : g.listRuns filter s d = (.ok none, (noteRefused filter e s d').2) :=
      bind_of_ok _ (attempt_of_refusal hcollect)
    rw [finish_listing hgather, cancelDuplicates, bind_assoc, bind_outcome _ hlist]
    rfl

theorem advance_listing {filter : RunFilter} {l : Ledger} {found : List WorkflowRun} {cursor : Option Cursor} {pages : Nat}
    {answer : Except Failure (Except HostError (Page WorkflowRun))} {d' : Desk σ}
    (h : attempt (g.host.page (.runs filter) cursor) s d = (answer, d')) :
    g.advance filter l (.listing found cursor (pages + 1)) s d =
      (.ok (l, match answer with
        | .error e => .ended (.error e)
        | .ok (.error e) => .listed (.error e)
        | .ok (.ok ⟨items, none⟩) => .listed (.ok (found ++ items))
        | .ok (.ok ⟨items, some next⟩) => .listing (found ++ items) (some next) pages), d') := by
  rw [advance, bind_outcome _ h]
  rcases answer with f | e | ⟨items, _ | next⟩ <;> rfl

theorem finish_advance (filter : RunFilter) (l : Ledger) (stage : Stage) :
    (g.advance filter l stage >>= fun p => g.finish filter p.1 p.2) = g.finish filter l stage := by
  rcases stage with ⟨found, cursor, _ | pages⟩ | ⟨e | runs⟩ | ⟨_ | ⟨r, rs⟩⟩ | ⟨action, runs⟩ | how
  · rfl
  · funext s d
    rcases hpage : attempt (g.host.page (.runs filter) cursor) s d with ⟨f | e | ⟨items, _ | next⟩, d'⟩
    · have hgather : g.host.gatherFrom (.runs filter) (pages + 1) cursor s d = (.error f, d') := bind_of_error _ hpage
      rw [finish_listing hgather, bind_of_ok _ (advance_listing hpage)]
      rfl
    · have hgather : g.host.gatherFrom (.runs filter) (pages + 1) cursor s d = (.ok ([], some e), d') :=
        bind_of_ok _ hpage
      rw [finish_listing hgather, bind_of_ok _ (advance_listing hpage)]
      rfl
    · have hgather : g.host.gatherFrom (.runs filter) (pages + 1) cursor s d = (.ok (items, none), d') :=
        bind_of_ok _ hpage
      rw [finish_listing hgather, bind_of_ok _ (advance_listing hpage)]
      rfl
    · have hgather : g.host.gatherFrom (.runs filter) (pages + 1) cursor s d =
          (g.host.gatherFrom (.runs filter) pages (some next) >>= fun p => pure (items ++ p.1, p.2)) s d' :=
        bind_of_ok _ hpage
      rw [bind_of_ok _ (advance_listing hpage)]
      rcases hrest : g.host.gatherFrom (.runs filter) pages (some next) s d' with ⟨f | ⟨rest, _ | e⟩, d''⟩
      · rw [bind_of_error _ hrest] at hgather
        rw [finish_listing hgather, finish_listing hrest]
      · rw [bind_of_ok _ hrest, pure_apply] at hgather
        rw [finish_listing hgather, finish_listing hrest]
        simp only [List.append_assoc]
      · rw [bind_of_ok _ hrest, pure_apply] at hgather
        rw [finish_listing hgather, finish_listing hrest]
  · rfl
  · rfl
  · rfl
  · funext s d
    rcases henact : g.enact .cancel .duplicateQueued .superseded l r s d with ⟨e | ⟨l', action⟩, d'⟩
    · have hstep : g.advance filter l (.cancelling (r :: rs)) s d = (.ok (l, .ended (.error e)), d') :=
        bind_outcome _ henact
      have happly : g.apply .cancel .duplicateQueued .superseded l r s d = (.error e, d') := bind_of_error _ henact
      rw [bind_of_ok _ hstep, finish, finish, cancelEach, bind_outcome _ happly]
    · obtain ⟨log, htell⟩ := tell_notes action s d'
      have hstep : g.advance filter l (.cancelling (r :: rs)) s d = (.ok (l', .telling action rs), d') :=
        bind_outcome _ henact
      have happly : g.apply .cancel .duplicateQueued .superseded l r s d = (.ok l', { d' with log := log }) :=
        (bind_of_ok _ henact).trans (bind_of_ok _ htell)
      rw [bind_of_ok _ hstep, finish, finish, cancelEach, bind_outcome _ happly, bind_of_ok _ htell]
  · rw [advance, bind_assoc]
    rfl
  · rfl

/-! ## No turns -/

/-- **Without turns of the workers one branch is handled after another.** -/
theorem cancelInPool_nil (l : Ledger) (branches : List Branch) :
    g.cancelInPool [] l branches = g.cancelInBranches l branches := by
  change g.finishAll l (branches.map g.taskOf) = _
  induction branches generalizing l with
  | nil => rfl
  | cons b bs ih =>
    have hwork : inWorker 0 (g.finish (.queuedOn b) l (.listing [] none g.host.pageLimit)) =
        inWorker 0 (g.cancelDuplicates (.queuedOn b) l) >>= fun p => pure (p.1, p.2.map fun _ => ()) := by
      rw [finish_start]
      rfl
    rw [List.map_cons, finishAll, cancelInBranches, taskOf, Option.getD_none, hwork, bind_assoc]
    refine bind_congr fun p => ?_
    rw [pure_bind]
    dsimp only
    rw [ih]
    rcases p.2 with e | runs <;> rfl

/-- Where no turns are given, one branch is handled after another. -/
theorem runPassBy_nil (branches : List Branch) : g.runPassBy [] branches = g.runPass branches := by
  rw [runPassBy, cancelInPool_nil]
  rfl

/-! ## One worker -/

section Turns

variable {l : Ledger} {t : Task} {ts : List Task} {w : Nat}

/-- A worker goes on with the task at the head, if it holds it or if that is the first one to take. -/
theorem turn_head (hw : w < g.workers) (h : Task.place? (t :: ts) w = some 0) :
    g.turn l (t :: ts) w = inWorker w (g.advance (.queuedOn t.branch) l t.stage) >>= fun p =>
      pure (p.1, ⟨t.branch, some w, p.2⟩ :: ts) := by
  rw [turn, if_neg (by omega), h]
  rfl

theorem turn_past (hheld : t.isHeldBy w = false) (hwaiting : t.isWaiting = false) :
    g.turn l (t :: ts) w = g.turn l ts w >>= fun p => pure (p.1, t :: p.2) := by
  have hplace : Task.place? (t :: ts) w = (Task.place? ts w).map (· + 1) := by
    rw [Task.place?, Task.place?, List.findIdx?_cons, List.findIdx?_cons, hheld, hwaiting]
    cases ts.findIdx? (Task.isHeldBy w) <;> rfl
  unfold turn
  rw [hplace]
  split
  · rfl
  · cases hi : Task.place? ts w with
    | none => rfl
    | some i =>
      cases hu : ts[i]? with
      | none => simp [hu]
      | some u => simp [hu]

end Turns

/-- The tasks of a pool of one worker: the first ones have ended, the next one may have been begun, and all others
wait. -/
inductive InTurn : List Task → Prop where
  | waiting {ts : List Task} (h : ∀ t ∈ ts, t.isWaiting = true) : InTurn ts
  | begun {t : Task} {ts : List Task} (hheld : t.isHeldBy 0 = true) (h : ∀ t ∈ ts, t.isWaiting = true) : InTurn (t :: ts)
  | ended {b : Branch} {how : Except Failure Unit} {ts : List Task} (h : InTurn ts) :
      InTurn (⟨b, some 0, .ended how⟩ :: ts)

theorem turn_single_head (hone : g.workers = 1) {t : Task} {ts : List Task} (hplace : Task.place? (t :: ts) 0 = some 0)
    (hworker : t.worker.getD 0 = 0) (h : ∀ t ∈ ts, t.isWaiting = true) (l : Ledger) :
    (∀ s d p d', g.turn l (t :: ts) 0 s d = (.ok p, d') → InTurn p.2) ∧
      (g.turn l (t :: ts) 0 >>= fun p => g.finishAll p.1 p.2) = g.finishAll l (t :: ts) := by
  rw [turn_head (by omega) hplace]
  constructor
  · intro s d p d' hend
    obtain ⟨q, d₁, -, hdone⟩ := ok_of_bind hend
    obtain rfl := Except.ok.inj (congrArg Prod.fst hdone)
    by_cases hended : ∃ how, q.2 = .ended how
    · obtain ⟨how, hended⟩ := hended
      dsimp only
      rw [hended]
      exact .ended (.waiting h)
    · refine .begun ?_ h
      rcases hq : q.2 with _ | _ | _ | _ | how <;> simp_all [Task.isHeldBy]
  · have hsteps : inWorker 0 (g.finish (.queuedOn t.branch) l t.stage) =
        inWorker 0 (g.advance (.queuedOn t.branch) l t.stage) >>= fun p =>
          inWorker 0 (g.finish (.queuedOn t.branch) p.1 p.2) := by
      rw [← finish_advance]
      rfl
    rw [bind_assoc, finishAll, hworker, hsteps, bind_assoc]
    rfl

theorem finishAll_ended (b : Branch) (how : Except Failure Unit) (l : Ledger) (ts : List Task) :
    g.finishAll l (⟨b, some 0, .ended how⟩ :: ts) = g.finishAll l ts >>= fun p =>
      pure (p.1, match how with
        | .ok _ => p.2
        | .error e => .error e) := by
  have hnothing : inWorker 0 (g.finish (.queuedOn b) l (.ended how)) = pure (l, how) := rfl
  rw [finishAll, Option.getD_some, hnothing, pure_bind]
  refine bind_congr fun p => ?_
  cases how <;> rfl

/-- **One worker does one task after another**, so a turn of it anticipates what is done in any case. -/
theorem turn_single (hone : g.workers = 1) {ts : List Task} (h : InTurn ts) (l : Ledger) (w : Nat) :
    (∀ s d p d', g.turn l ts w s d = (.ok p, d') → InTurn p.2) ∧
      (g.turn l ts w >>= fun p => g.finishAll p.1 p.2) = g.finishAll l ts := by
  have hidle : ∀ {ts : List Task}, InTurn ts → g.turn l ts w = pure (l, ts) →
      (∀ s d p d', g.turn l ts w s d = (.ok p, d') → InTurn p.2) ∧
        (g.turn l ts w >>= fun p => g.finishAll p.1 p.2) = g.finishAll l ts := by
    intro ts h hturn
    rw [hturn]
    refine ⟨fun s d p d' hend => ?_, rfl⟩
    obtain rfl := Except.ok.inj (congrArg Prod.fst hend)
    exact h
  by_cases hw : g.workers ≤ w
  · exact hidle h (by rw [turn, if_pos hw])
  obtain rfl : w = 0 := by omega
  induction h with
  | @waiting ts hall =>
    cases ts with
    | nil => exact hidle (.waiting hall) (by rw [turn, if_neg hw]; rfl)
    | cons t ts =>
      have hfree : ∀ u ∈ t :: ts, u.worker = none := fun u hu => by simpa [Task.isWaiting] using hall u hu
      refine turn_single_head hone ?_ ?_ (fun u hu => hall u (by simp [hu])) l
      · have hnobody : (t :: ts).findIdx? (Task.isHeldBy 0) = none :=
          List.findIdx?_eq_none_iff.mpr fun u hu => by simp [Task.isHeldBy, hfree u hu]
        rw [Task.place?, hnobody, List.findIdx?_cons, hall t (by simp)]
        rfl
      · rw [hfree t (by simp), Option.getD_none]
  | @begun t ts hheld hall =>
    refine turn_single_head hone ?_ ?_ hall l
    · rw [Task.place?, List.findIdx?_cons, hheld]
      rfl
    · have hworker : t.worker = some 0 := by
        simp only [Task.isHeldBy, Bool.and_eq_true, beq_iff_eq] at hheld
        exact hheld.1
      rw [hworker, Option.getD_some]
  | @ended b how ts _ ih =>
    rw [turn_past (t := ⟨b, some 0, .ended how⟩) rfl rfl]
    constructor
    · intro s d p d' hend
      obtain ⟨q, d₁, hturn, hdone⟩ := ok_of_bind hend
      obtain rfl := Except.ok.inj (congrArg Prod.fst hdone)
      exact .ended (ih.1 s d q d₁ hturn)
    · rw [finishAll_ended, ← ih.2, bind_assoc, bind_assoc]
      exact bind_congr fun q => by rw [pure_bind, finishAll_ended]

theorem takeTurns_single (hone : g.workers = 1) (turns : List Nat) {ts : List Task} (h : InTurn ts) (l : Ledger) :
    (g.takeTurns l ts turns >>= fun p => g.finishAll p.1 p.2) = g.finishAll l ts := by
  induction turns generalizing l ts with
  | nil => rfl
  | cons w turns ih =>
    obtain ⟨hkept, hsame⟩ := turn_single hone h l w
    rw [takeTurns, bind_assoc, ← hsame]
    funext s d
    rcases hturn : g.turn l ts w s d with ⟨e | p, d'⟩
    · rw [bind_of_error _ hturn, bind_of_error _ hturn]
    · rw [bind_of_ok _ hturn, bind_of_ok _ hturn]
      exact congrFun (congrFun (ih (hkept s d p d' hturn) p.1) s) d'

/-- **A pool of one worker handles one branch after another**, whatever turns it takes. -/
theorem runPassBy_of_single (hone : g.workers = 1) (turns : List Nat) (branches : List Branch) :
    g.runPassBy turns branches = g.runPass branches := by
  have hwaiting : InTurn (branches.map g.taskOf) := .waiting fun t ht => by
    obtain ⟨b, -, rfl⟩ := List.mem_map.mp ht
    rfl
  have hpool : g.cancelInPool turns {} branches = g.cancelInBranches {} branches := by
    rw [← cancelInPool_nil]
    exact takeTurns_single hone turns hwaiting {}
  rw [runPassBy, hpool]
  rfl

/-- Which turns the workers take matters only if there are several. -/
theorem runPassBy_congr {turns turns' : List Nat} (h : turns = turns' ∨ g.workers = 1) :
    g.runPassBy turns = g.runPassBy turns' := by
  rcases h with rfl | hone
  · rfl
  · funext branches
    rw [runPassBy_of_single hone, runPassBy_of_single hone]

end RunSteward.Governor
