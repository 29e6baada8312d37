import RunSteward.Proofs.Governance.Duplicates
import RunSteward.Proofs.Governance.Findings
import RunSteward.Proofs.Governance.RunStore

/-!
# Survivors

Duplicates are told apart by their places in a listing, but they are cancelled by their ids. The run that leads
its group is safe as long as the listing shows it once (`condemned_leader_iff`). A listing that changes while it
is read may show a run on two pages, and then the run loses against itself: its group may be left with no run at
all (`doubled_run_lost`).
-/

namespace RunSteward

variable {runs : List WorkflowRun} {r q : WorkflowRun}

/-- An id that is to be cancelled on account of a listing. -/
def Condemned (runs : List WorkflowRun) (i : Int) : Prop :=
  ∃ o ∈ Order.ofDuplicates runs, o.run.id = i

theorem condemned_iff {i : Int} : Condemned runs i ↔ ∃ q ∈ duplicateRuns runs, q.id = i := by
  unfold Condemned Order.ofDuplicates
  constructor
  · rintro ⟨o, ho, hid⟩
    obtain ⟨q, hq, rfl⟩ := List.mem_map.mp ho
    exact ⟨q, hq, hid⟩
  · rintro ⟨q, hq, hid⟩
    exact ⟨_, List.mem_map_of_mem hq, hid⟩

/-! ## Leaders -/

theorem exists_leads (hq : q ∈ runs) : ∃ b, Leads runs b ∧ q.sameGroup b = true := by
  have hfair := Contest.fair_foldl runs
  obtain ⟨b, hb, hgroup⟩ := hfair.covers q hq
  exact ⟨b, hfair.leads b hb, hgroup⟩

theorem Leads.erase_perm (h : Leads runs r) :
    ∃ others, (others ++ duplicateRuns runs).Perm (runs.erase r) ∧ ∀ b ∈ others, ¬r.sameGroup b = true := by
  have hfair := Contest.fair_foldl runs
  obtain ⟨b, hb, hgroup⟩ := hfair.covers r h.mem
  obtain rfl := h.unique (hfair.leads b hb) hgroup
  refine ⟨(runs.foldl Contest.enter {}).best.erase r, ?_, fun b hb' => ?_⟩
  · have hperm := hfair.perm.erase r
    rw [List.erase_append_left _ hb] at hperm
    exact ((List.mergeSort_perm _ _).append_left _).trans hperm
  · -- two leaders are of different groups
    have hapart : (r :: (runs.foldl Contest.enter {}).best.erase r).Pairwise fun a b => ¬a.sameGroup b = true := by
      refine ((List.perm_cons_erase hb).pairwise_iff fun hab hba => ?_).mp hfair.apart
      exact hab (WorkflowRun.sameGroup_symm hba)
    exact (List.pairwise_cons.mp hapart).1 b hb'

/-- **A leader is cancelled exactly if the listing shows its run again.** A run has one group, whichever entry of
the listing shows it. -/
theorem condemned_leader_iff (h : Leads runs r) (hgroup : ∀ q ∈ runs, q.id = r.id → r.sameGroup q = true) :
    Condemned runs r.id ↔ ∃ q ∈ runs.erase r, q.id = r.id := by
  obtain ⟨others, hperm, hothers⟩ := h.erase_perm
  rw [condemned_iff]
  constructor
  · rintro ⟨q, hq, hid⟩
    exact ⟨q, hperm.mem_iff.mp (List.mem_append_right _ hq), hid⟩
  · rintro ⟨q, hq, hid⟩
    have hsame := hgroup q (List.mem_of_mem_erase hq) hid
    rcases List.mem_append.mp (hperm.mem_iff.mpr hq) with hother | hduplicate
    · exact absurd hsame (hothers q hother)
    · exact ⟨q, hduplicate, hid⟩

theorem spared_of_ids_nodup (hids : (runs.map WorkflowRun.id).Nodup) (hq : q ∈ runs) :
    ∃ b, Leads runs b ∧ q.sameGroup b = true ∧ ¬Condemned runs b.id := by
  obtain ⟨b, hleads, hgroup⟩ := exists_leads hq
  have hinj : ∀ p ∈ runs, p.id = b.id → p = b := fun p hp hid => List.inj_on_of_nodup_map hids hp hleads.mem hid
  refine ⟨b, hleads, hgroup, fun hcondemned => ?_⟩
  rw [condemned_leader_iff hleads fun p hp hid => by rw [hinj p hp hid]; exact b.sameGroup_refl] at hcondemned
  obtain ⟨p, hp, hid⟩ := hcondemned
  obtain rfl := hinj p (List.mem_of_mem_erase hp) hid
  exact ((List.Nodup.of_map _ hids).mem_erase_iff.mp hp).1 rfl

/-- How a listing treats the leaders of its groups. -/
structure Spares (runs : List WorkflowRun) : Prop where
  leader_iff : ∀ r, Leads runs r → (∀ q ∈ runs, q.id = r.id → r.sameGroup q = true) →
    (Condemned runs r.id ↔ ∃ q ∈ runs.erase r, q.id = r.id)
  leader_left : (runs.map WorkflowRun.id).Nodup → ∀ q ∈ runs,
    ∃ b, Leads runs b ∧ q.sameGroup b = true ∧ ¬Condemned runs b.id

theorem spares (runs : List WorkflowRun) : Spares runs where
  leader_iff _ hleads hgroup := condemned_leader_iff hleads hgroup
  leader_left hids _ hq := spared_of_ids_nodup hids hq

/-! ## The policy -/

namespace Governor

variable {σ : Type} {g : Governor σ}

theorem cancelQueuedDuplicates_watched (g : Governor σ) (branches : List Branch) (s : Scope) (d : Desk σ) :
    (g.watched.cancelQueuedDuplicates branches {} s d.watched).1 = (g.cancelQueuedDuplicates branches {} s d).1 := by
  have hagree := g.watched_lockstep.workalike.cancelQueuedDuplicates {} {} branches s d.watched d ⟨rfl, rfl⟩
  exact hagree.fst_eq fun _ _ _ _ hres => Prod.ext hres.2.1 hres.1

/-- **What becomes of the leaders**: the policy obeys the orders for the duplicates in its listings, and on account
of a listing it cancels a leader only if the listing shows the run of the leader again. -/
theorem duplicates_spare_leaders (g : Governor σ) (branches : List Branch) (s : Scope) (d : Desk σ) (l : Ledger)
    (queued : List WorkflowRun) (hend : (g.cancelQueuedDuplicates branches {} s d).1 = .ok (l, queued)) :
    ∃ (found : List ((b : Branch) × Found (.runs (.queuedOn b)))) (f : Found (.runs .queuedOfPulls)),
      found.map Sigma.fst = branches ∧ queued = f.work ∧
      (g.watched.cancelQueuedDuplicates branches {} s d.watched).2.world.lookups =
        found.flatMap (fun b => b.2.lookups) ++ f.lookups ∧
      Obeyed g.rehearsal {} ((found.flatMap fun b => Order.ofDuplicates b.2.work) ++ Order.ofDuplicates f.work) l
        (g.watched.cancelQueuedDuplicates branches {} s d.watched).2.world.calls ∧
      ∀ runs ∈ f.work :: found.map (fun b => b.2.work), Spares runs := by
  obtain ⟨lookups, calls, ⟨hlookups, hcalls⟩, htold⟩ := g.tells_cancelQueuedDuplicates branches s d.watched
  have hend' : (g.watched.cancelQueuedDuplicates branches {} s d.watched).1 = .ok (l, queued) := by
    rw [cancelQueuedDuplicates_watched, hend]
  obtain ⟨found, f, hfst, hqueued, rfl, hobeyed⟩ := htold _ hend'
  refine ⟨found, f, hfst, hqueued, hlookups.trans (List.nil_append _), ?_, fun runs _ => spares runs⟩
  rw [hcalls]
  exact hobeyed

/-- The cancellation of a run of the main branch that counts as superseded. -/
def supersededAction (i : Int) : Action :=
  ⟨.duplicateQueued, .cancel, i, "build", "main", "superseded_by_newer_run", .done⟩

theorem duplicates_spare_leaders_pair :
    ((RunStore.governor RunStore.answer default).cancelQueuedDuplicates [⟨"main", ""⟩] {} {} RunStore.pairDesk).1 =
        .ok (⟨[supersededAction 1], [1], []⟩, []) ∧
      ∃ (found : List ((b : Branch) × Found (.runs (.queuedOn b)))) (f : Found (.runs .queuedOfPulls)),
        found.map Sigma.fst = [⟨"main", ""⟩] ∧ ∀ runs ∈ f.work :: found.map (fun b => b.2.work), Spares runs := by
  have hend : ((RunStore.governor RunStore.answer default).cancelQueuedDuplicates [⟨"main", ""⟩] {} {}
      RunStore.pairDesk).1 = .ok (⟨[supersededAction 1], [1], []⟩, []) := by
    decide +kernel
  obtain ⟨found, f, hbranches, -, -, -, hspares⟩ := duplicates_spare_leaders _ _ _ _ _ _ hend
  exact ⟨hend, found, f, hbranches, hspares⟩

/-- A host whose listings have two pages. What the first page showed has moved to the second one when that is
read. -/
def shiftingHost : Host RunStore :=
  { RunStore.host RunStore.answer with
    page := fun listing cursor => do
      let page ← (RunStore.host RunStore.answer).page listing none
      return { page with next := if cursor.isNone then some "2" else none }
    pageLimit := 2 }

def shiftingGovernor : Governor RunStore :=
  { RunStore.governor RunStore.answer default with host := shiftingHost }

def loneDesk : Desk RunStore :=
  ⟨⟨[RunStore.queuedRun 5 "main" "push"], [], by decide⟩, #[]⟩

/-- The only run of its group loses against itself: it is cancelled on account of a listing that shows no other. -/
theorem doubled_run_lost :
    (shiftingGovernor.listRuns (.queuedOn ⟨"main", ""⟩) {} loneDesk).1 =
        .ok (some [RunStore.queuedRun 5 "main" "push", RunStore.queuedRun 5 "main" "push"]) ∧
      (shiftingGovernor.cancelQueuedDuplicates [⟨"main", ""⟩] {} {} loneDesk).1 =
        .ok (⟨[supersededAction 5], [5], []⟩, []) ∧
      (shiftingGovernor.cancelQueuedDuplicates [⟨"main", ""⟩] {} {} loneDesk).2.world.runs =
        [(RunStore.queuedRun 5 "main" "push").asCancelled] := by
  refine ⟨?_, ?_, ?_⟩ <;> decide +kernel

end Governor

end RunSteward
