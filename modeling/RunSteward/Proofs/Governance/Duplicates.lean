import Mathlib.Data.List.Perm.Basic
import RunSteward.Governance.Duplicates

/-!
# Duplicates and leaders

Of the runs of a group one leads: the first of those with the highest run number (`Leads`). The contest splits
runs into the leaders of their groups and the losers (`Contest.fair_foldl`), so that every duplicate is beaten
by another run (`beaten_of_mem_duplicateRuns`), and a run without a double is a duplicate exactly if it does not
lead (`mem_duplicateRuns_iff`). Runs that lead go on to lead when others are taken away.
-/

namespace RunSteward

variable {runs runs' : List WorkflowRun} {a b r q : WorkflowRun} {c : Contest}

namespace WorkflowRun

theorem sameGroup_iff : a.sameGroup b = true ↔ a.headBranch = b.headBranch ∧ a.name = b.name := by
  simp [sameGroup]

theorem sameGroup_refl (a : WorkflowRun) : a.sameGroup a = true := by
  simp [sameGroup]

theorem sameGroup_symm (h : a.sameGroup b = true) : b.sameGroup a = true := by
  rw [sameGroup_iff] at h ⊢
  exact ⟨h.1.symm, h.2.symm⟩

theorem sameGroup_trans (h : a.sameGroup b = true) (h' : b.sameGroup r = true) :
    a.sameGroup r = true := by
  rw [sameGroup_iff] at h h' ⊢
  exact ⟨h.1.trans h'.1, h.2.trans h'.2⟩

end WorkflowRun

/-! ## Leaders -/

/-- A run leads its group: those listed before it have lower numbers, those listed after it no higher ones. -/
def Leads (runs : List WorkflowRun) (r : WorkflowRun) : Prop :=
  ∃ before after, runs = before ++ r :: after ∧
    (∀ q ∈ before, r.sameGroup q = true → q.runNumber < r.runNumber) ∧
    ∀ q ∈ after, r.sameGroup q = true → q.runNumber ≤ r.runNumber

namespace Leads

theorem mem (h : Leads runs r) : r ∈ runs := by
  obtain ⟨before, after, rfl, -, -⟩ := h
  simp

theorem bound (h : Leads runs r) (hq : q ∈ runs) (hgroup : r.sameGroup q = true) :
    q.runNumber ≤ r.runNumber := by
  obtain ⟨before, after, rfl, hbefore, hafter⟩ := h
  rcases List.mem_append.mp hq with hq | hq
  · exact Int.le_of_lt (hbefore q hq hgroup)
  · rcases List.mem_cons.mp hq with rfl | hq
    · exact Int.le_refl _
    · exact hafter q hq hgroup

theorem unique (h : Leads runs r) (h' : Leads runs q) (hgroup : r.sameGroup q = true) : r = q := by
  obtain ⟨before, after, rfl, hbefore, hafter⟩ := h
  obtain ⟨before', after', heq, hbefore', hafter'⟩ := h'
  rcases List.append_eq_append_iff.mp heq with ⟨ys, hys, hzs⟩ | ⟨ys, hys, hzs⟩
  · -- `q` stands at `r` or after it
    cases ys with
    | nil => exact (List.cons.inj hzs).1
    | cons y ys =>
      obtain ⟨rfl, rfl⟩ := List.cons.inj hzs
      have hlt := hbefore' r (by simp [hys]) (WorkflowRun.sameGroup_symm hgroup)
      have hle := hafter q (by simp) hgroup
      omega
  · cases ys with
    | nil => exact (List.cons.inj hzs).1.symm
    | cons y ys =>
      obtain ⟨rfl, rfl⟩ := List.cons.inj hzs
      have hlt := hbefore q (by simp [hys]) hgroup
      have hle := hafter' r (by simp) (WorkflowRun.sameGroup_symm hgroup)
      omega

theorem append (h : Leads runs r) (hq : r.sameGroup q = true → q.runNumber ≤ r.runNumber) :
    Leads (runs ++ [q]) r := by
  obtain ⟨before, after, rfl, hbefore, hafter⟩ := h
  refine ⟨before, after ++ [q], by simp, hbefore, ?_⟩
  intro x hx hgroup
  rcases List.mem_append.mp hx with hx | hx
  · exact hafter x hx hgroup
  · obtain rfl := List.mem_singleton.mp hx
    exact hq hgroup

theorem last (h : ∀ q ∈ runs, r.sameGroup q = true → q.runNumber < r.runNumber) :
    Leads (runs ++ [r]) r :=
  ⟨runs, [], rfl, h, by simp⟩

theorem sublist (h : Leads runs r) (hsub : runs'.Sublist runs) (hnodup : runs.Nodup) (hr : r ∈ runs') :
    Leads runs' r := by
  obtain ⟨before, after, rfl, hbefore, hafter⟩ := h
  obtain ⟨xs, ys, rfl, hxs, hys⟩ := List.sublist_append_iff.mp hsub
  have hlone : r ∉ before ∧ r ∉ after := by
    have hperm := List.perm_middle.nodup_iff.mp hnodup
    simpa using (List.nodup_cons.mp hperm).1
  have hxs' : r ∉ xs := fun hx => hlone.1 (hxs.mem hx)
  rcases List.sublist_cons_iff.mp hys with hys | ⟨zs, rfl, hzs⟩
  · exact absurd ((List.mem_append.mp hr).resolve_left hxs') fun hy => hlone.2 (hys.mem hy)
  · exact ⟨xs, zs, rfl, fun q hq => hbefore q (hxs.mem hq), fun q hq => hafter q (hzs.mem hq)⟩

end Leads

/-! ## The contest -/

namespace Contest

/-- The best runs are of different groups. -/
def Apart (c : Contest) : Prop :=
  c.best.Pairwise fun a b => ¬a.sameGroup b = true

/-- All that the entry of a run can do: it becomes the best of a new group, it displaces the best run of its
group, or it loses against it. -/
theorem enter_cases (h : c.Apart) (r : WorkflowRun) :
    ((∀ b ∈ c.best, ¬r.sameGroup b = true) ∧ c.enter r = ⟨c.best ++ [r], c.losers⟩) ∨
    ∃ before held after, c.best = before ++ held :: after ∧ r.sameGroup held = true ∧
      (∀ b ∈ before ++ after, ¬r.sameGroup b = true) ∧
      ((held.runNumber < r.runNumber ∧ c.enter r = ⟨before ++ r :: after, c.losers ++ [held]⟩) ∨
        (r.runNumber ≤ held.runNumber ∧ c.enter r = ⟨c.best, c.losers ++ [r]⟩)) := by
  unfold enter
  rcases hfind : c.best.find? (r.sameGroup ·) with _ | held
  · left
    exact ⟨List.find?_eq_none.mp hfind, rfl⟩
  · right
    obtain ⟨hheld, before, after, hbest, hbefore⟩ := List.find?_eq_some_iff_append.mp hfind
    have hafter : ∀ b ∈ after, ¬r.sameGroup b = true := by
      intro b hb hgroup
      have hpair := h
      rw [Apart, hbest, List.pairwise_append] at hpair
      exact (List.pairwise_cons.mp hpair.2.1).1 b hb
        (WorkflowRun.sameGroup_trans (WorkflowRun.sameGroup_symm hheld) hgroup)
    have hother : ∀ b ∈ before ++ after, ¬r.sameGroup b = true := by
      intro b hb
      rcases List.mem_append.mp hb with hb | hb
      · simpa using hbefore b hb
      · exact hafter b hb
    refine ⟨before, held, after, hbest, hheld, hother, ?_⟩
    by_cases hlt : held.runNumber < r.runNumber
    · left
      have hkeep : ∀ bs : List WorkflowRun, (∀ b ∈ bs, ¬r.sameGroup b = true) →
          (bs.map fun b => if r.sameGroup b then r else b) = bs := by
        intro bs hbs
        rw [List.map_congr_left fun b hb => if_neg (hbs b hb), List.map_id']
      refine ⟨hlt, ?_⟩
      simp only [if_pos hlt, hbest, List.map_append, List.map_cons, if_pos hheld]
      rw [hkeep before fun b hb => hother b (by simp [hb]), hkeep after hafter]
    · right
      exact ⟨by omega, by simp only [if_neg hlt]⟩

theorem perm_enter (h : c.Apart) (r : WorkflowRun) :
    ((c.enter r).best ++ (c.enter r).losers).Perm (c.best ++ c.losers ++ [r]) := by
  rw [List.perm_iff_count]
  intro x
  rcases enter_cases h r with ⟨-, heq⟩ | ⟨before, held, after, hbest, -, -, ⟨-, heq⟩ | ⟨-, heq⟩⟩
  · simp only [heq, List.count_append]
    omega
  · simp only [heq, hbest, List.count_append, List.count_cons, List.count_nil]
    omega
  · simp only [heq, List.count_append]
    omega

theorem apart_enter (h : c.Apart) (r : WorkflowRun) : (c.enter r).Apart := by
  rcases enter_cases h r with ⟨hnew, heq⟩ | ⟨before, held, after, hbest, hheld, hother, ⟨-, heq⟩ | ⟨-, heq⟩⟩
  · rw [heq]
    refine List.pairwise_append.mpr ⟨h, List.pairwise_singleton _ _, ?_⟩
    intro b hb q hq hgroup
    obtain rfl := List.mem_singleton.mp hq
    exact hnew b hb (WorkflowRun.sameGroup_symm hgroup)
  · rw [Apart, hbest] at h
    rw [heq]
    obtain ⟨hbefore, hafter, hcross⟩ := List.pairwise_append.mp h
    refine List.pairwise_append.mpr ⟨hbefore, List.pairwise_cons.mpr ⟨?_, hafter.of_cons⟩, ?_⟩
    · exact fun b hb => hother b (by simp [hb])
    · intro b hb q hq
      rcases List.mem_cons.mp hq with rfl | hq
      · exact fun hgroup => hother b (by simp [hb]) (WorkflowRun.sameGroup_symm hgroup)
      · exact hcross b hb q (by simp [hq])
  · rw [heq]
    exact h

/-- A contest that has split runs into the leaders of all groups and the losers. -/
structure Fair (c : Contest) (runs : List WorkflowRun) : Prop where
  perm : (c.best ++ c.losers).Perm runs
  apart : c.Apart
  leads : ∀ b ∈ c.best, Leads runs b
  covers : ∀ q ∈ runs, ∃ b ∈ c.best, q.sameGroup b = true

namespace Fair

theorem empty : Fair {} [] where
  perm := List.Perm.nil
  apart := List.Pairwise.nil
  leads := by simp
  covers := by simp

theorem le_best (h : c.Fair runs) (hq : q ∈ runs) :
    ∃ b ∈ c.best, q.sameGroup b = true ∧ q.runNumber ≤ b.runNumber := by
  obtain ⟨b, hb, hgroup⟩ := h.covers q hq
  exact ⟨b, hb, hgroup, (h.leads b hb).bound hq (WorkflowRun.sameGroup_symm hgroup)⟩

theorem leads_enter (h : c.Fair runs) (r : WorkflowRun) :
    ∀ b ∈ (c.enter r).best, Leads (runs ++ [r]) b := by
  rcases enter_cases h.apart r with ⟨hnew, heq⟩ |
    ⟨before, held, after, hbest, hheld, hother, ⟨hlt, heq⟩ | ⟨hle, heq⟩⟩
  · -- the first run of its group
    have hfirst : Leads (runs ++ [r]) r := Leads.last fun q hq hgroup => by
      obtain ⟨b, hb, hqb⟩ := h.covers q hq
      exact absurd (WorkflowRun.sameGroup_trans hgroup hqb) (hnew b hb)
    rw [heq]
    intro b hb
    rcases List.mem_append.mp hb with hb | hb
    · refine (h.leads b hb).append fun hgroup => ?_
      exact absurd (WorkflowRun.sameGroup_symm hgroup) (hnew b hb)
    · rwa [List.mem_singleton.mp hb]
  · -- a run that displaces the best of its group
    have hheldLeads := h.leads held (by simp [hbest])
    have hfirst : Leads (runs ++ [r]) r := Leads.last fun q hq hgroup => by
      have hle := hheldLeads.bound hq
        (WorkflowRun.sameGroup_trans (WorkflowRun.sameGroup_symm hheld) hgroup)
      omega
    rw [heq]
    intro b hb
    by_cases hnew : b = r
    · rwa [hnew]
    · have hb' : b ∈ before ++ after := by
        simp only [List.mem_append, List.mem_cons] at hb ⊢
        tauto
      refine (h.leads b ?_).append fun hgroup => ?_
      · simp only [hbest, List.mem_append, List.mem_cons] at hb' ⊢
        tauto
      · exact absurd (WorkflowRun.sameGroup_symm hgroup) (hother b hb')
  · -- a run that loses
    rw [heq]
    intro b hb
    refine (h.leads b hb).append fun hgroup => ?_
    by_cases hheldb : b = held
    · rwa [hheldb]
    · have hb' : b ∈ before ++ after := by
        simp only [hbest, List.mem_append, List.mem_cons] at hb ⊢
        tauto
      exact absurd (WorkflowRun.sameGroup_symm hgroup) (hother b hb')

theorem covers_enter (h : c.Fair runs) (r : WorkflowRun) :
    ∀ q ∈ runs ++ [r], ∃ b ∈ (c.enter r).best, q.sameGroup b = true := by
  have hnewest : ∃ b ∈ (c.enter r).best, r.sameGroup b = true := by
    rcases enter_cases h.apart r with ⟨-, heq⟩ | ⟨before, held, after, hbest, hheld, -, ⟨-, heq⟩ | ⟨-, heq⟩⟩
    · exact ⟨r, by simp [heq], r.sameGroup_refl⟩
    · exact ⟨r, by simp [heq], r.sameGroup_refl⟩
    · exact ⟨held, by simp [heq, hbest], hheld⟩
  intro q hq
  rcases List.mem_append.mp hq with hq | hq
  · by_cases hgroup : q.sameGroup r = true
    · obtain ⟨b, hb, hrb⟩ := hnewest
      exact ⟨b, hb, WorkflowRun.sameGroup_trans hgroup hrb⟩
    · obtain ⟨b, hb, hqb⟩ := h.covers q hq
      refine ⟨b, ?_, hqb⟩
      rcases enter_cases h.apart r with ⟨-, heq⟩ | ⟨before, held, after, hbest, hheld, -, ⟨-, heq⟩ | ⟨-, heq⟩⟩
      · simp [heq, hb]
      · have hne : b ≠ held := by
          rintro rfl
          exact hgroup (WorkflowRun.sameGroup_trans hqb (WorkflowRun.sameGroup_symm hheld))
        simp only [hbest, List.mem_append, List.mem_cons] at hb
        simp only [heq, List.mem_append, List.mem_cons]
        tauto
      · simpa [heq] using hb
  · rwa [List.mem_singleton.mp hq]

theorem enter (h : c.Fair runs) (r : WorkflowRun) : (c.enter r).Fair (runs ++ [r]) where
  perm := (perm_enter h.apart r).trans (h.perm.append_right [r])
  apart := apart_enter h.apart r
  leads := h.leads_enter r
  covers := h.covers_enter r

end Fair

theorem fair_foldl_from (h : c.Fair runs) (more : List WorkflowRun) :
    (more.foldl Contest.enter c).Fair (runs ++ more) := by
  induction more generalizing c runs with
  | nil => simpa using h
  | cons r more ih => simpa using ih (h.enter r)

/-- **The contest is fair**: it splits runs into the leaders of their groups and the losers. -/
theorem fair_foldl (runs : List WorkflowRun) : (runs.foldl Contest.enter {}).Fair runs :=
  fair_foldl_from Fair.empty runs

end Contest

/-! ## Duplicates -/

theorem mem_duplicateRuns : r ∈ duplicateRuns runs ↔ r ∈ (runs.foldl Contest.enter {}).losers :=
  List.mem_mergeSort

theorem mem_of_mem_duplicateRuns (h : r ∈ duplicateRuns runs) : r ∈ runs := by
  rw [mem_duplicateRuns] at h
  exact (Contest.fair_foldl runs).perm.mem_iff.mp (by simp [h])

theorem beaten_of_mem_duplicateRuns (h : r ∈ duplicateRuns runs) :
    ∃ q ∈ runs.erase r, r.sameGroup q = true ∧ r.runNumber ≤ q.runNumber := by
  have hfair := Contest.fair_foldl runs
  obtain ⟨b, hb, hgroup, hle⟩ := hfair.le_best (mem_of_mem_duplicateRuns h)
  refine ⟨b, ?_, hgroup, hle⟩
  rw [mem_duplicateRuns] at h
  -- the other run is still there when one loser is taken away
  have hperm : (r :: ((runs.foldl Contest.enter {}).best ++ (runs.foldl Contest.enter {}).losers.erase r)).Perm
      runs :=
    List.perm_middle.symm.trans (((List.perm_cons_erase h).symm.append_left _).trans hfair.perm)
  have herase := hperm.erase r
  rw [List.erase_cons_head] at herase
  exact herase.mem_iff.mp (by simp [hb])

/-- Of runs that are listed once, the duplicates are those that do not lead. -/
theorem mem_duplicateRuns_iff (hnodup : runs.Nodup) :
    r ∈ duplicateRuns runs ↔ r ∈ runs ∧ ¬Leads runs r := by
  have hfair := Contest.fair_foldl runs
  constructor
  · intro h
    refine ⟨mem_of_mem_duplicateRuns h, fun hleads => ?_⟩
    obtain ⟨b, hb, hgroup⟩ := hfair.covers r hleads.mem
    obtain rfl := hleads.unique (hfair.leads b hb) hgroup
    rw [mem_duplicateRuns] at h
    have hsplit := hfair.perm.nodup_iff.mpr hnodup
    exact (List.nodup_append.mp hsplit).2.2 r hb r h rfl
  · rintro ⟨hmem, hleads⟩
    rw [mem_duplicateRuns]
    rcases List.mem_append.mp (hfair.perm.mem_iff.mpr hmem) with hbest | hlost
    · exact absurd (hfair.leads r hbest) hleads
    · exact hlost

theorem mem_duplicateRuns_of_sublist (hsub : runs'.Sublist runs) (hnodup : runs.Nodup)
    (h : r ∈ duplicateRuns runs') : r ∈ duplicateRuns runs := by
  rw [mem_duplicateRuns_iff (hnodup.sublist hsub)] at h
  rw [mem_duplicateRuns_iff hnodup]
  obtain ⟨hmem, hleads⟩ := h
  exact ⟨hsub.mem hmem, fun hbefore => hleads (hbefore.sublist hsub hnodup hmem)⟩

end RunSteward
