import RunSteward.Proofs.Governance.Completion
import RunSteward.Proofs.Governance.Deeds
import RunSteward.Proofs.Governance.Rehearsal
import RunSteward.Proofs.Governance.Repetition
import RunSteward.Proofs.Governance.Selection

/-!
# Thoroughness

A pass leaves out an order only if it would be a repetition, and then the ledger has an action to show for it
(`Ledger.Backed`). So nothing that a policy selects is lost, whatever is refused on the way (`Carried.attended`). A
run that is listed as active is cancelled before it is removed: by the policy that removes it, or by an earlier one
(`Carried.prepared`). `runPass_thorough` says both of a whole pass.
-/

namespace RunSteward

/-! ## Prepared orders -/

/-- An order that removes a run which is listed as active, under a policy that cancels such a run first. -/
def Order.Clears (o : Order) : Prop :=
  o.kind = .remove ∧ o.policy ≠ .cancelledSweep ∧ o.run.isActive = true

/-- Orders of which each one that clears comes after one that cancels the run. -/
def Prepared (os : List Order) : Prop :=
  ∀ before o after, os = before ++ o :: after → o.Clears → ∃ c ∈ before, c.kind = .cancel ∧ c.run.id = o.run.id

/-- **A run is cancelled before it is removed** where the orders are prepared. -/
theorem Carried.prepared {os : List Order} {before after : List Deed} {x : Deed} {l' : Ledger}
    (h : Carried {} os (before ++ x :: after) l') (hprepared : Prepared os) (hclears : x.order.Clears) :
    ∃ c ∈ before, c.order.kind = .cancel ∧ c.order.run.id = x.order.run.id := by
  obtain ⟨earlier, later, l₁, hos, hearlier, hfresh⟩ := h.turn
  obtain ⟨o, ho, hcancel, hid⟩ := hprepared earlier x.order later hos hclears
  -- a removal that is no repetition is of a run that was not removed before
  have hleft : o.run.id ∉ l₁.removed := hid ▸ (Ledger.already_eq_false.mp hfresh).1
  rcases hearlier.deed_of_mem ho with ⟨c, hc, hkind, hrun⟩ | ⟨-, hremoved⟩
  · exact ⟨c, hc, hkind.trans hcancel, hrun.trans hid⟩
  · exact absurd hremoved hleft

/-! ## The orders of a survey are prepared -/

namespace Prepared

variable {os os' : List Order}

theorem nil : Prepared [] := by
  intro before o after hos
  simp at hos

theorem append (h : Prepared os) (h' : Prepared os') : Prepared (os ++ os') := by
  intro before o after hos hclears
  rcases List.append_eq_append_iff.mp hos with ⟨middle, rfl, hrest⟩ | ⟨middle, hfirst, hrest⟩
  · obtain ⟨c, hc, hcancel⟩ := h' middle o after hrest hclears
    exact ⟨c, List.mem_append_right _ hc, hcancel⟩
  · rcases middle with _ | ⟨p, middle⟩
    · -- the order is the first one of the second part
      obtain ⟨c, hc, -⟩ := h' [] o after hrest.symm hclears
      simp at hc
    · obtain ⟨rfl, -⟩ := List.cons.inj hrest
      exact h before o middle hfirst hclears

theorem flatMap {α : Type} {f : α → List Order} {xs : List α} (h : ∀ x ∈ xs, Prepared (f x)) :
    Prepared (xs.flatMap f) := by
  induction xs with
  | nil => exact nil
  | cons x xs ih =>
    rw [List.flatMap_cons]
    exact (h x (by simp)).append (ih fun y hy => h y (by simp [hy]))

theorem of_forall (h : ∀ o ∈ os, ¬o.Clears) : Prepared os := by
  rintro before o after rfl hclears
  exact absurd hclears (h o (by simp))

theorem clearing (policy : Policy) (reason : Reason) (r : WorkflowRun) :
    Prepared (Order.clearing policy reason r) := by
  unfold Order.clearing
  by_cases hactive : r.isActive = true
  · rw [if_pos hactive]
    intro before o after hos hclears
    rcases before with _ | ⟨c, before⟩
    · obtain ⟨rfl, -⟩ := List.cons.inj hos
      cases hclears.1
    · obtain ⟨rfl, htail⟩ := List.cons.inj hos
      have hlast : o = ⟨policy, .remove, reason, r⟩ := by
        rcases before with _ | ⟨p, before⟩
        · exact (List.cons.inj htail).1.symm
        · simp at htail
      exact ⟨⟨policy, .cancel, reason, r⟩, by simp, rfl, by rw [hlast]⟩
  · rw [if_neg hactive]
    refine of_forall fun o ho hclears => ?_
    obtain rfl := List.mem_singleton.mp ho
    exact hactive hclears.2.2

theorem ofOrphans (runs : List WorkflowRun) (pulls : List PullRequest) :
    Prepared (Order.ofOrphans runs pulls) := by
  refine flatMap fun r _ => ?_
  split
  · exact nil
  · exact clearing _ _ _

theorem ofExpiry (settings : GovernanceSettings) (now : Stamp) (r : WorkflowRun) :
    Prepared (Order.ofExpiry settings now r) := by
  unfold Order.ofExpiry
  split
  · exact clearing _ _ _
  · exact nil

theorem ofCancelled (runs : List WorkflowRun) : Prepared (Order.ofCancelled runs) :=
  of_forall fun _ ho hclears => hclears.2.1 (Order.of_mem_ofCancelled ho).1

theorem ofPruning (settings : GovernanceSettings) (pulls : List PullRequest) (r : WorkflowRun) :
    Prepared (Order.ofPruning settings pulls r) := by
  unfold Order.ofPruning
  split
  · exact clearing _ _ _
  · split
    · exact nil
    · exact clearing _ _ _

end Prepared

namespace Survey

variable {settings : GovernanceSettings} {branches : List Branch} (v : Survey settings branches)

theorem prepared : Prepared v.orders := by
  rw [orders_eq]
  refine Prepared.append (.of_forall fun o ho hclears => ?_) ?_
  · have hcancel := kind_of_mem_cancelling ho
    rw [hclears.1] at hcancel
    cases hcancel
  · have horphans : Prepared ((v.pulls.all?.map (Order.ofOrphans v.queued.work)).getD []) := by
      cases v.pulls.all? with
      | none => exact .nil
      | some pulls => exact .ofOrphans _ _
    have hpruning : Prepared ((v.pulls.all?.map fun pulls =>
        ((v.prunable.map Found.work).getD []).flatMap (Order.ofPruning settings pulls)).getD []) := by
      cases v.pulls.all? with
      | none => exact .nil
      | some pulls => exact .flatMap fun r _ => .ofPruning _ _ _
    have hexpiry : Prepared (v.pages.flatMap fun p => p.work.flatMap (Order.ofExpiry settings v.now)) :=
      .flatMap fun p _ => .flatMap fun r _ => .ofExpiry _ _ _
    simp only [removing, List.flatten_cons, List.flatten_nil]
    exact horphans.append (hexpiry.append ((Prepared.ofCancelled _).append (hpruning.append .nil)))

/-- What the deeds of a pass owe to its survey. A duplicate is cancelled, what another policy selects is removed,
and a policy other than the sweep removes a run that it found active only after an attempt to cancel it. -/
structure Thorough (deeds : List Deed) : Prop where
  cancelled : ∀ r, v.Selects .duplicateQueued r → ∃ x ∈ deeds, x.order.kind = .cancel ∧ x.order.run.id = r.id
  removed : ∀ policy r, policy ≠ .duplicateQueued → v.Selects policy r →
    ∃ x ∈ deeds, x.order.kind = .remove ∧ x.order.run.id = r.id
  selected : ∀ x ∈ deeds, v.Selects x.order.policy x.order.run
  cancelled_first : ∀ before x after, deeds = before ++ x :: after → x.order.kind = .remove →
    x.order.policy ≠ .cancelledSweep → x.order.run.isActive = true →
    ∃ c ∈ before, c.order.kind = .cancel ∧ c.order.run.id = x.order.run.id

variable {v}

theorem thorough {deeds : List Deed} {l : Ledger} (h : Carried {} v.orders deeds l) : v.Thorough deeds where
  cancelled r hselected := by
    obtain ⟨o, ho, hkind, rfl⟩ := hselected.cancel_mem
    rw [orders_eq] at h
    obtain ⟨first, rest, l₁, rfl, hfirst, -⟩ := h.split
    rcases hfirst.deed_of_mem ho with ⟨x, hx, hxkind, hid⟩ | ⟨-, hremoved⟩
    · exact ⟨x, List.mem_append_left _ hx, hxkind.trans hkind, hid⟩
    · -- nothing is removed before the duplicates are cancelled
      rw [hfirst.removed_of_cancels fun o ho => kind_of_mem_cancelling ho] at hremoved
      simp at hremoved
  removed policy r hpolicy hselected := by
    obtain ⟨o, ho, hkind, rfl⟩ := hselected.remove_mem hpolicy
    have hmem : o ∈ v.orders := by
      rw [orders_eq]
      exact List.mem_append_right _ ho
    rcases h.deed_of_mem hmem with ⟨x, hx, hxkind, hid⟩ | ⟨hcancel, -⟩
    · exact ⟨x, hx, hxkind.trans hkind, hid⟩
    · rw [hkind] at hcancel
      cases hcancel
  selected x hx := selects_of_mem_orders (h.order_mem hx)
  cancelled_first before x after hdeeds hkind hpolicy hactive := by
    subst hdeeds
    exact h.prepared v.prepared ⟨hkind, hpolicy, hactive⟩

end Survey

namespace Governor

open Act

theorem responds_of_table (answers : ActionKind → Int → Except HostError Unit) (now : Stamp)
    (settings : GovernanceSettings) :
    (RunStore.governor (fun kind i S => (answers kind i, S)) now).host.Responds settings
      fun S => ∀ r ∈ S.runs, r.Datable settings where
  page _ _ _ d hd := ⟨.ok _, d, rfl, hd⟩
  finite listing s d _ := by
    intro hend
    cases hend
  runsPage number _ s d hd := by
    refine ⟨.ok (d.world.block number), d, rfl, hd, fun r hr => ?_⟩
    exact hd r (List.mem_of_mem_drop (List.mem_of_mem_take hr))
  cancelRun r s d hd :=
    ⟨_, d, RunStore.request_apply (fun i S => (answers .cancel i, S)) r s d, hd⟩
  removeRun r s d hd :=
    ⟨_, d, RunStore.request_apply (fun i S => (answers .remove i, S)) r s d, hd⟩

end Governor

end RunSteward
