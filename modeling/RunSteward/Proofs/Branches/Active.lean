import RunSteward.Branches.Active
import RunSteward.Proofs.Host.Paging

/-!
# Open milestones and governed branches

Once its pages are read, a listing of milestones or branches does nothing but write the log (`openMilestones_eq`,
`activeBranches_eq`). All milestones that are open count; and those branches count that are governed by them, unless a
numeral that is met on the way has too many digits, in a title or in the name of a branch (`judged_eq_ok_iff`).
-/

namespace RunSteward

open Act

variable {σ τ : Type}

namespace Milestone

theorem noteAllUnreadable_notes (milestones : List Milestone) :
    Notes (noteAllUnreadable milestones : Act σ Unit) () := by
  refine notes_forM (fun m => ?_) milestones
  unfold noteUnreadable
  split
  · exact notes_record _ _ _
  · exact notes_pure ()

theorem noteAllUnreadable_alike {R : Desk σ → Desk τ → Prop}
    (hrecord : ∀ level logger message, Alike R (record level logger message) (record level logger message))
    (milestones : List Milestone) : Alike R (noteAllUnreadable milestones) (noteAllUnreadable milestones) := by
  refine alike_forM (fun m => ?_) milestones
  unfold noteUnreadable
  split
  · exact hrecord _ _ _
  · exact alike_pure ()

end Milestone

namespace Host

variable {k : Classifier} {milestones : List Milestone} {branches active : List Branch}

/-! ## Judging branches -/

theorem judge_settles (k : Classifier) (milestones : List Milestone) (b : Branch) :
    Settles (judge k milestones b : Act σ Bool) (k.isGoverned b.name milestones) := by
  unfold judge
  split
  · exact (Milestone.noteAllUnreadable_notes _).then (settles_orHalt _)
  · exact settles_orHalt _

/-- The governed branches among those that were shown, if each of them can be judged. -/
def judged (k : Classifier) (milestones : List Milestone) : List Branch → Except Fault (List Branch)
  | [] => .ok []
  | b :: bs => do
    let isGoverned ← k.isGoverned b.name milestones
    let rest ← judged k milestones bs
    return if isGoverned then b :: rest else rest

theorem judgeAll_settles (k : Classifier) (milestones : List Milestone) (branches : List Branch) :
    Settles (judgeAll k milestones branches : Act σ (List Branch)) (judged k milestones branches) := by
  induction branches with
  | nil => exact (notes_pure _).settles
  | cons b branches ih =>
    exact (judge_settles k milestones b).bind fun _ => ih.bind fun _ => (notes_pure _).settles

def governed (k : Classifier) (milestones : List Milestone) (branches : List Branch) : List Branch :=
  branches.filter fun b => k.isGoverned b.name milestones matches .ok true

theorem judged_eq_ok_iff : judged k milestones branches = .ok active ↔
    (∀ b ∈ branches, (k.isGoverned b.name milestones).isOk) ∧ active = governed k milestones branches := by
  induction branches generalizing active with
  | nil => exact ⟨fun h => ⟨nofun, (Except.ok.inj h).symm⟩, fun h => congrArg Except.ok h.2.symm⟩
  | cons b branches ih =>
    rw [List.forall_mem_cons, judged, governed, List.filter_cons, ← governed]
    rcases hjudge : k.isGoverned b.name milestones with f | isGoverned
    · exact iff_of_false nofun fun h => absurd h.1.1 nofun
    · rcases hrest : judged k milestones branches with f | rest
      · refine iff_of_false nofun fun h => ?_
        have hok := ih.mpr ⟨h.1.2, rfl⟩
        rw [hrest] at hok
        cases hok
      · obtain ⟨hall, rfl⟩ := ih.mp hrest
        cases isGoverned
        · exact ⟨fun h => ⟨⟨rfl, hall⟩, (Except.ok.inj h).symm⟩, fun h => congrArg Except.ok h.2.symm⟩
        · exact ⟨fun h => ⟨⟨rfl, hall⟩, (Except.ok.inj h).symm⟩, fun h => congrArg Except.ok h.2.symm⟩

theorem exists_unjudged {f : Fault} (h : judged k milestones branches = .error f) :
    ∃ b ∈ branches, k.isGoverned b.name milestones = .error f := by
  induction branches with
  | nil => cases h
  | cons b branches ih =>
    rw [judged] at h
    rcases hjudge : k.isGoverned b.name milestones with f' | isGoverned <;> rw [hjudge] at h
    · obtain rfl := Except.error.inj h
      exact ⟨b, by simp, hjudge⟩
    · rcases hrest : judged k milestones branches with f' | rest <;> rw [hrest] at h
      · obtain rfl := Except.error.inj h
        obtain ⟨b', hb', hunjudged⟩ := ih hrest
        exact ⟨b', by simp [hb'], hunjudged⟩
      · cases h

/-! ## Listings that were read -/

theorem openMilestones_eq (host : Host σ) :
    ∃ rest, host.openMilestones = host.gather .milestones >>= rest ∧
      ∀ gathered, Notes (rest gathered) (gathered.1.filter Milestone.isOpen) := by
  refine ⟨_, rfl, ?_⟩
  rintro ⟨items, _ | e⟩
  · exact Notes.bind (notes_record _ _ _) (notes_pure _)
  · refine Notes.bind (notes_record _ _ _) ?_
    exact Notes.bind (notes_record _ _ _) (notes_pure _)

theorem activeBranches_eq (host : Host σ) (k : Classifier) (milestones : List Milestone) :
    ∃ rest, host.activeBranches k milestones = host.gather .branches >>= rest ∧
      ∀ gathered, Settles (rest gathered) (judged k milestones gathered.1) := by
  refine ⟨_, rfl, ?_⟩
  rintro ⟨items, _ | e⟩
  · exact (judgeAll_settles k milestones items).noted fun _ => Notes.bind (notes_record _ _ _) (notes_pure _)
  · refine (notes_record _ _ _).then ?_
    exact (judgeAll_settles k milestones items).noted fun _ => Notes.bind (notes_record _ _ _) (notes_pure _)

section Alike

variable {R : Desk σ → Desk τ → Prop} {host : Host σ} {host' : Host τ}
  (hlimit : host'.pageLimit = host.pageLimit)
  (hrecord : ∀ level logger message, Alike R (record level logger message) (record level logger message))

include hlimit hrecord

theorem openMilestones_alike
    (hpage : ∀ cursor, Alike R (host.page .milestones cursor) (host'.page .milestones cursor)) :
    Alike R host.openMilestones host'.openMilestones := by
  refine Alike.bind (gather_alike hlimit hpage) ?_
  rintro ⟨items, _ | e⟩
  · exact Alike.bind (hrecord _ _ _) fun _ => alike_pure _
  · refine Alike.bind (hrecord _ _ _) fun _ => ?_
    exact Alike.bind (hrecord _ _ _) fun _ => alike_pure _

theorem activeBranches_alike
    (hpage : ∀ cursor, Alike R (host.page .branches cursor) (host'.page .branches cursor)) (k : Classifier)
    (milestones : List Milestone) :
    Alike R (host.activeBranches k milestones) (host'.activeBranches k milestones) := by
  have hjudge : ∀ b, Alike R (judge k milestones b) (judge k milestones b) := by
    intro b
    unfold judge
    split
    · exact Alike.bind (Milestone.noteAllUnreadable_alike hrecord _) fun _ => alike_orHalt _
    · exact alike_orHalt _
  have hjudged : ∀ branches, Alike R (judgeAll k milestones branches) (judgeAll k milestones branches) := by
    intro branches
    induction branches with
    | nil => exact alike_pure _
    | cons b branches ih => exact Alike.bind (hjudge b) fun _ => Alike.bind ih fun _ => alike_pure _
  refine Alike.bind (gather_alike hlimit hpage) ?_
  rintro ⟨items, _ | e⟩
  · refine Alike.bind (hjudged items) fun _ => ?_
    exact Alike.bind (hrecord _ _ _) fun _ => alike_pure _
  · refine Alike.bind (hrecord _ _ _) fun _ => ?_
    refine Alike.bind (hjudged items) fun _ => ?_
    exact Alike.bind (hrecord _ _ _) fun _ => alike_pure _

end Alike

end Host

end RunSteward
