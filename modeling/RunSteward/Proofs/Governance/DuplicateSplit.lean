import Mathlib.Data.List.FinRange
import Mathlib.Data.Prod.Lex
import Mathlib.Data.String.Basic
import RunSteward.Proofs.Governance.Duplicates
import RunSteward.Proofs.List.Sorting

/-!
# The split of runs

Entries of a listing are told apart by their places, for a listing may show equal runs. At exactly one place of every
group an entry leads (`LeadsAt`); the entries at all other places are the duplicates, each as often as it is listed,
and they are sorted by branch, by workflow and from the highest number down (`duplicateRuns_split`). Where no two runs
of a group have the same number, it does not matter in which order the runs are listed.
-/

namespace RunSteward

variable {runs runs' : List WorkflowRun} {a b r q : WorkflowRun} {i j : Fin runs.length}

/-! ## The order of duplicates -/

namespace WorkflowRun

/-- Where a duplicate is to stand among the others. -/
def place (r : WorkflowRun) : String ×ₗ String ×ₗ ℤᵒᵈ :=
  toLex (r.headBranch, toLex (r.name, OrderDual.toDual r.runNumber))

theorem place_le_iff : a.place ≤ b.place ↔ a.headBranch < b.headBranch ∨
    (a.headBranch = b.headBranch ∧ (a.name < b.name ∨ (a.name = b.name ∧ b.runNumber ≤ a.runNumber))) := by
  simp [place, Prod.Lex.toLex_le_toLex]

theorem place_injective (h : a.place = b.place) :
    a.headBranch = b.headBranch ∧ a.name = b.name ∧ a.runNumber = b.runNumber := by
  simpa [place] using h

theorem handledBefore_iff : a.handledBefore b = true ↔ a.place ≤ b.place := by
  rw [place_le_iff, handledBefore]
  by_cases hbranch : a.headBranch = b.headBranch
  · by_cases hname : a.name = b.name
    · simp [hbranch, hname]
    · simp [hbranch, hname]
  · simp [hbranch]

end WorkflowRun

theorem handledBefore_trans (a b c : WorkflowRun) (h : a.handledBefore b = true) (h' : b.handledBefore c = true) :
    a.handledBefore c = true := by
  rw [WorkflowRun.handledBefore_iff] at h h' ⊢
  exact le_trans h h'

theorem handledBefore_total (a b : WorkflowRun) : (a.handledBefore b || b.handledBefore a) = true := by
  rw [Bool.or_eq_true, WorkflowRun.handledBefore_iff, WorkflowRun.handledBefore_iff]
  exact le_total _ _

theorem duplicateRuns_sorted (runs : List WorkflowRun) :
    (duplicateRuns runs).Pairwise fun a b => a.place ≤ b.place := by
  refine (List.pairwise_mergeSort handledBefore_trans handledBefore_total _).imp fun h => ?_
  exact WorkflowRun.handledBefore_iff.mp h

/-! ## Leading places -/

/-- The entry at a place leads its group: no entry of the group has a higher number, and those before it have lower
numbers. -/
def LeadsAt (runs : List WorkflowRun) (i : Fin runs.length) : Prop :=
  ∀ j : Fin runs.length, runs[i].sameGroup runs[j] = true →
    runs[j].runNumber ≤ runs[i].runNumber ∧ (j < i → runs[j].runNumber < runs[i].runNumber)

instance (runs : List WorkflowRun) (i : Fin runs.length) : Decidable (LeadsAt runs i) :=
  Nat.decidableForallFin _

theorem LeadsAt.unique (hi : LeadsAt runs i) (hj : LeadsAt runs j) (hgroup : runs[i].sameGroup runs[j] = true) :
    i = j := by
  have hback := WorkflowRun.sameGroup_symm hgroup
  rcases lt_trichotomy i j with hlt | rfl | hlt
  · have hlower := (hj i hback).2 hlt
    have hupper := (hi j hgroup).1
    omega
  · rfl
  · have hlower := (hi j hgroup).2 hlt
    have hupper := (hj i hback).1
    omega

theorem leads_iff : Leads runs r ↔ ∃ i, LeadsAt runs i ∧ runs[i] = r := by
  constructor
  · rintro ⟨before, after, rfl, hbefore, hafter⟩
    refine ⟨⟨before.length, by simp⟩, fun j hgroup => ?_, by simp⟩
    simp only [Fin.getElem_fin, List.getElem_append_right (Nat.le_refl _), Nat.sub_self, List.getElem_cons_zero]
      at hgroup ⊢
    rcases Nat.lt_trichotomy j.val before.length with hlt | heq | hlt
    · rw [List.getElem_append_left hlt] at hgroup ⊢
      have hlower := hbefore _ (List.getElem_mem hlt) hgroup
      exact ⟨Int.le_of_lt hlower, fun _ => hlower⟩
    · simp [heq, Fin.lt_def]
    · obtain ⟨k, hk⟩ : ∃ k, j.val = before.length + (k + 1) := ⟨j.val - before.length - 1, by omega⟩
      simp only [hk, List.getElem_append_right (Nat.le_add_right _ _), Nat.add_sub_cancel_left,
        List.getElem_cons_succ] at hgroup ⊢
      refine ⟨hafter _ (List.getElem_mem _) hgroup, fun hearlier => ?_⟩
      rw [Fin.lt_def] at hearlier
      simp only at hearlier
      omega
  · rintro ⟨i, hleads, rfl⟩
    refine ⟨runs.take i, runs.drop (i + 1), ?_, fun q hq hgroup => ?_, fun q hq hgroup => ?_⟩
    · simp
    · obtain ⟨j, hj, rfl⟩ := List.mem_take_iff_getElem.mp hq
      exact (hleads ⟨j, by omega⟩ hgroup).2 (by rw [Fin.lt_def]; simp only; omega)
    · obtain ⟨j, hj, rfl⟩ := List.mem_drop_iff_getElem.mp hq
      exact (hleads ⟨_, by omega⟩ hgroup).1

/-! ## Leaders and duplicates -/

theorem Contest.Fair.mem_best_iff {c : Contest} (h : c.Fair runs) : r ∈ c.best ↔ Leads runs r := by
  refine ⟨h.leads r, fun hleads => ?_⟩
  obtain ⟨b, hb, hgroup⟩ := h.covers r hleads.mem
  rwa [hleads.unique (h.leads b hb) hgroup]

/-- The entries at the places of a list that a test picks out. -/
def entriesAt (runs : List WorkflowRun) (p : Fin runs.length → Bool) : List WorkflowRun :=
  ((List.finRange runs.length).filter p).map runs.get

theorem entriesAt_perm (runs : List WorkflowRun) (p : Fin runs.length → Bool) :
    (entriesAt runs p ++ entriesAt runs fun i => !p i).Perm runs := by
  have hsplit := (List.filter_append_perm p (List.finRange runs.length)).map runs.get
  rwa [List.map_append, List.map_get_finRange] at hsplit

theorem leaders_nodup (runs : List WorkflowRun) : (entriesAt runs fun i => LeadsAt runs i).Nodup := by
  refine List.Nodup.map_on (fun i hi j hj heq => ?_) ((List.nodup_finRange _).filter _)
  have hi' : LeadsAt runs i := by simpa using hi
  have hj' : LeadsAt runs j := by simpa using hj
  refine hi'.unique hj' ?_
  rw [show runs[j] = runs[i] from heq.symm]
  exact WorkflowRun.sameGroup_refl _

theorem mem_leaders : r ∈ entriesAt runs (fun i => LeadsAt runs i) ↔ Leads runs r := by
  rw [leads_iff]
  simp [entriesAt]

theorem duplicateRuns_perm (runs : List WorkflowRun) :
    (duplicateRuns runs).Perm (entriesAt runs fun i => !LeadsAt runs i) := by
  have hfair := Contest.fair_foldl runs
  have hnodup : (runs.foldl Contest.enter {}).best.Nodup := by
    refine hfair.apart.imp fun {a b} hapart heq => hapart ?_
    rw [heq]
    exact b.sameGroup_refl
  have hbest : (runs.foldl Contest.enter {}).best.Perm (entriesAt runs fun i => LeadsAt runs i) := by
    refine (List.perm_ext_iff_of_nodup hnodup (leaders_nodup runs)).mpr fun b => ?_
    rw [hfair.mem_best_iff, mem_leaders]
  have hlosers : ((entriesAt runs fun i => LeadsAt runs i) ++ (runs.foldl Contest.enter {}).losers).Perm
      ((entriesAt runs fun i => LeadsAt runs i) ++ entriesAt runs fun i => !LeadsAt runs i) :=
    (hbest.symm.append_right _).trans (hfair.perm.trans (entriesAt_perm runs _).symm)
  exact (List.mergeSort_perm _ _).trans ((List.perm_append_left_iff _).mp hlosers)

/-! ## The order of the listing -/

/-- What tells the runs of a listing apart if no two runs of a group have the same number. -/
def WorkflowRun.entry (r : WorkflowRun) : String × String × Int :=
  (r.headBranch, r.name, r.runNumber)

/-- Where no two runs of a group have the same number, a run leads exactly if none of its group has a higher one. -/
theorem leads_iff_of_distinct (hdistinct : (runs.map WorkflowRun.entry).Nodup) :
    Leads runs r ↔ r ∈ runs ∧ ∀ q ∈ runs, r.sameGroup q = true → q.runNumber ≤ r.runNumber := by
  refine ⟨fun h => ⟨h.mem, fun q hq => h.bound hq⟩, fun ⟨hmem, hbound⟩ => ?_⟩
  obtain ⟨b, hb, hgroup⟩ := (Contest.fair_foldl runs).covers r hmem
  have hleads := (Contest.fair_foldl runs).leads b hb
  have hupper := hbound b hleads.mem hgroup
  have hlower := hleads.bound hmem (WorkflowRun.sameGroup_symm hgroup)
  obtain ⟨hbranch, hname⟩ := WorkflowRun.sameGroup_iff.mp hgroup
  have hentry : r.entry = b.entry := by
    simp only [WorkflowRun.entry, Prod.mk.injEq]
    exact ⟨hbranch, hname, by omega⟩
  rwa [List.inj_on_of_nodup_map hdistinct hmem hleads.mem hentry]

/-- Where no two runs of a group have the same number, the order of the listing does not matter. -/
theorem duplicateRuns_of_perm (hperm : runs.Perm runs') (hdistinct : (runs.map WorkflowRun.entry).Nodup) :
    duplicateRuns runs' = duplicateRuns runs := by
  have hdistinct' : (runs'.map WorkflowRun.entry).Nodup := (hperm.map _).nodup_iff.mp hdistinct
  have hnodup : ∀ rs : List WorkflowRun, (rs.map WorkflowRun.entry).Nodup →
      (rs.foldl Contest.enter {}).losers.Nodup := by
    intro rs hrs
    have hsplit := (Contest.fair_foldl rs).perm.nodup_iff.mpr (List.Nodup.of_map _ hrs)
    exact (List.nodup_append.mp hsplit).2.1
  have hlosers : (runs'.foldl Contest.enter {}).losers.Perm (runs.foldl Contest.enter {}).losers := by
    refine (List.perm_ext_iff_of_nodup (hnodup runs' hdistinct') (hnodup runs hdistinct)).mpr fun r => ?_
    rw [← mem_duplicateRuns, ← mem_duplicateRuns, mem_duplicateRuns_iff (List.Nodup.of_map _ hdistinct),
      mem_duplicateRuns_iff (List.Nodup.of_map _ hdistinct'), leads_iff_of_distinct hdistinct,
      leads_iff_of_distinct hdistinct']
    simp only [hperm.mem_iff]
  refine mergeSort_eq_of_perm handledBefore_trans handledBefore_total hlosers fun a ha b hb hab hba => ?_
  rw [WorkflowRun.handledBefore_iff] at hab hba
  obtain ⟨hbranch, hname, hnumber⟩ := WorkflowRun.place_injective (le_antisymm hab hba)
  rw [← mem_duplicateRuns] at ha hb
  refine List.inj_on_of_nodup_map hdistinct' (mem_of_mem_duplicateRuns ha) (mem_of_mem_duplicateRuns hb) ?_
  simp only [WorkflowRun.entry, hbranch, hname, hnumber]

/-- **Runs are split into leaders and duplicates.** The duplicates are the entries at the places that do not lead; every
group has exactly one leading place; the duplicates are sorted by branch, by workflow and from the highest number
down; and where no two runs of a group have the same number, they do not depend on the order of the listing. -/
theorem duplicateRuns_split (runs : List WorkflowRun) :
    (duplicateRuns runs).Perm (entriesAt runs fun i => !LeadsAt runs i) ∧
      (∀ q ∈ runs, ∃! i, LeadsAt runs i ∧ runs[i].headBranch = q.headBranch ∧ runs[i].name = q.name) ∧
      (duplicateRuns runs).Pairwise (fun a b => a.headBranch < b.headBranch ∨
        (a.headBranch = b.headBranch ∧ (a.name < b.name ∨ (a.name = b.name ∧ b.runNumber ≤ a.runNumber)))) ∧
      ∀ runs', runs.Perm runs' → (runs.map fun r => (r.headBranch, r.name, r.runNumber)).Nodup →
        duplicateRuns runs' = duplicateRuns runs := by
  refine ⟨duplicateRuns_perm runs, fun q hq => ?_, ?_, fun runs' => duplicateRuns_of_perm⟩
  · obtain ⟨b, hb, hgroup⟩ := (Contest.fair_foldl runs).covers q hq
    obtain ⟨i, hi, rfl⟩ := leads_iff.mp ((Contest.fair_foldl runs).leads b hb)
    refine ⟨i, ⟨hi, WorkflowRun.sameGroup_iff.mp (WorkflowRun.sameGroup_symm hgroup)⟩, ?_⟩
    rintro j ⟨hj, hgroup'⟩
    exact hj.unique hi (WorkflowRun.sameGroup_trans (WorkflowRun.sameGroup_iff.mpr hgroup') hgroup)
  · exact (duplicateRuns_sorted runs).imp fun h => WorkflowRun.place_le_iff.mp h

/-- The run with a number, by its branch and its workflow. -/
def numbered (number : Int) (branch workflow : String) : WorkflowRun where
  id := number
  name := workflow
  headBranch := branch
  runNumber := number
  event := "push"
  status := "queued"
  conclusion := none
  updatedAt := default

/-- Two workflows on `main`, one of them twice, and one on another branch. -/
def mixedRuns : List WorkflowRun :=
  [numbered 3 "main" "build", numbered 5 "main" "test", numbered 9 "feature" "build", numbered 4 "main" "build"]

/-- The older build on `main` is the duplicate, listed first or last. -/
theorem duplicateRuns_split_mixed :
    mixedRuns.Perm mixedRuns.reverse ∧
      (mixedRuns.map fun r => (r.headBranch, r.name, r.runNumber)).Nodup ∧
      duplicateRuns mixedRuns.reverse = duplicateRuns mixedRuns ∧
      duplicateRuns mixedRuns = [numbered 3 "main" "build"] := by
  have hdistinct : (mixedRuns.map fun r => (r.headBranch, r.name, r.runNumber)).Nodup := by decide
  obtain ⟨hperm, -, -, hturn⟩ := duplicateRuns_split mixedRuns
  have hplaces : entriesAt mixedRuns (fun i => !LeadsAt mixedRuns i) = [numbered 3 "main" "build"] := by decide
  refine ⟨(List.reverse_perm _).symm, hdistinct, hturn _ (List.reverse_perm _).symm hdistinct, ?_⟩
  exact List.perm_singleton.mp (hplaces ▸ hperm)

end RunSteward
