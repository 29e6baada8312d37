import RunSteward.Governance.Ledger

/-!
# What a ledger keeps

A ledger grows by one action at a time. The runs that it counts as cancelled or removed are those of its
actions that did not fail (`Kept`), and of the actions on one run that did not fail nothing stands in
the way of a later one but what `Action.Permits` leaves: a removal after a cancellation.
-/

namespace RunSteward

/-- What an action permits after it: once it did not fail, nothing more is done to its run, except that a
run that was cancelled may be removed. -/
def Action.Permits (a b : Action) : Prop :=
  a.runId = b.runId → a.outcome ≠ .failed → a.kind = .cancel ∧ b.kind = .remove

namespace Ledger

variable {l : Ledger} {a : Action} {i : Int}

@[simp] theorem actions_record : (l.record a).actions = l.actions ++ [a] := by
  unfold record
  split
  · rfl
  · cases a.kind <;> rfl

theorem mem_actions_record {b : Action} : b ∈ (l.record a).actions ↔ b ∈ l.actions ∨ b = a := by
  rw [actions_record, List.mem_append, List.mem_singleton]

theorem mem_cancelled_record :
    i ∈ (l.record a).cancelled ↔
      i ∈ l.cancelled ∨ (a.outcome ≠ .failed ∧ a.kind = .cancel ∧ a.runId = i) := by
  by_cases hfailed : a.outcome = .failed
  · simp [record, hfailed]
  · cases hkind : a.kind <;> simp [record, hfailed, hkind, or_comm, eq_comm]

theorem mem_removed_record :
    i ∈ (l.record a).removed ↔
      i ∈ l.removed ∨ (a.outcome ≠ .failed ∧ a.kind = .remove ∧ a.runId = i) := by
  by_cases hfailed : a.outcome = .failed
  · simp [record, hfailed]
  · cases hkind : a.kind <;> simp [record, hfailed, hkind, or_comm, eq_comm]

theorem cancelled_record_remove (h : a.kind = .remove) : (l.record a).cancelled = l.cancelled := by
  unfold record
  split
  · rfl
  · rw [h]

theorem removed_record_cancel (h : a.kind = .cancel) : (l.record a).removed = l.removed := by
  unfold record
  split
  · rfl
  · rw [h]

theorem already_iff {kind : ActionKind} :
    l.already kind i = true ↔ i ∈ l.removed ∨ (kind = .cancel ∧ i ∈ l.cancelled) := by
  simp [already]

theorem already_eq_false {kind : ActionKind} :
    l.already kind i = false ↔ i ∉ l.removed ∧ (kind = .cancel → i ∉ l.cancelled) := by
  rw [← Bool.not_eq_true, already_iff, not_or, not_and]

/-- A ledger that keeps the runs of its actions, none of which repeats an earlier one. -/
structure Kept (l : Ledger) : Prop where
  cancelled : ∀ a ∈ l.actions, a.outcome ≠ .failed → a.kind = .cancel → a.runId ∈ l.cancelled
  removed : ∀ a ∈ l.actions, a.outcome ≠ .failed → a.kind = .remove → a.runId ∈ l.removed
  permitted : l.actions.Pairwise Action.Permits

theorem Kept.empty : Kept {} where
  cancelled := by simp
  removed := by simp
  permitted := List.Pairwise.nil

theorem Kept.record (hkept : l.Kept) (hfresh : l.already a.kind a.runId = false) :
    (l.record a).Kept where
  cancelled b hb hdone hkind := by
    rw [mem_cancelled_record]
    rcases mem_actions_record.mp hb with hb | rfl
    · exact .inl (hkept.cancelled b hb hdone hkind)
    · exact .inr ⟨hdone, hkind, rfl⟩
  removed b hb hdone hkind := by
    rw [mem_removed_record]
    rcases mem_actions_record.mp hb with hb | rfl
    · exact .inl (hkept.removed b hb hdone hkind)
    · exact .inr ⟨hdone, hkind, rfl⟩
  permitted := by
    obtain ⟨hremoved, hcancelled⟩ := already_eq_false.mp hfresh
    rw [actions_record, List.pairwise_append]
    refine ⟨hkept.permitted, List.pairwise_singleton _ _, ?_⟩
    intro b hb c hc hrun hdone
    obtain rfl := List.mem_singleton.mp hc
    cases hkind : b.kind with
    | remove => exact absurd (hrun ▸ hkept.removed b hb hdone hkind) hremoved
    | cancel =>
      refine ⟨rfl, ?_⟩
      cases hkind' : c.kind with
      | remove => rfl
      | cancel => exact absurd (hrun ▸ hkept.cancelled b hb hdone hkind) (hcancelled hkind')

end Ledger

end RunSteward
