import RunSteward.Proofs.Governance.Ledger
import RunSteward.Proofs.Governance.Survey

/-!
# Deeds

A deed is an order that was carried out, with its outcome. An order is left out only if it would be a repetition, and
then the ledger has an action to show for it (`Ledger.Backed`). So every order is attended to, whatever was refused
before (`Carried.attended`).
-/

namespace RunSteward

/-! ## Deeds -/

/-- An order that was carried out, and its outcome. -/
structure Deed where
  order : Order
  outcome : ActionOutcome

def Deed.action (x : Deed) : Action :=
  x.order.action x.outcome

/-- Orders carried out from one ledger to another. Only those are skipped that would be repetitions. -/
inductive Carried : Ledger → List Order → List Deed → Ledger → Prop where
  | nil (l : Ledger) : Carried l [] [] l
  | skipped {l l' : Ledger} {o : Order} {os : List Order} {deeds : List Deed}
      (h : l.already o.kind o.run.id = true) (rest : Carried l os deeds l') : Carried l (o :: os) deeds l'
  | done {l l' : Ledger} {o : Order} {os : List Order} {deeds : List Deed}
      (h : l.already o.kind o.run.id = false) (outcome : ActionOutcome)
      (rest : Carried (l.record (o.action outcome)) os deeds l') : Carried l (o :: os) (⟨o, outcome⟩ :: deeds) l'

theorem Obeyed.carried {rehearsal : Bool} {l l' : Ledger} {os : List Order} {calls : List Call}
    (h : Obeyed rehearsal l os l' calls) : ∃ deeds, Carried l os deeds l' := by
  induction h with
  | nil l => exact ⟨[], .nil l⟩
  | already halready _ ih =>
    obtain ⟨deeds, hrest⟩ := ih
    exact ⟨deeds, .skipped halready hrest⟩
  | planned _ hfresh _ ih =>
    obtain ⟨deeds, hrest⟩ := ih
    exact ⟨_, .done hfresh .planned hrest⟩
  | sent _ hfresh answer _ ih =>
    obtain ⟨deeds, hrest⟩ := ih
    exact ⟨_, .done hfresh (Governor.outcomeOf answer) hrest⟩

/-! ## What a ledger has to show -/

/-- A ledger that has an action to show for every run that it counts as cancelled or removed. -/
structure Ledger.Backed (l : Ledger) : Prop where
  cancelled : ∀ i ∈ l.cancelled, ∃ a ∈ l.actions, a.kind = .cancel ∧ a.runId = i
  removed : ∀ i ∈ l.removed, ∃ a ∈ l.actions, a.kind = .remove ∧ a.runId = i

namespace Ledger

theorem Backed.empty : Backed {} where
  cancelled := by simp
  removed := by simp

theorem Backed.record {l : Ledger} (h : l.Backed) (a : Action) : (l.record a).Backed where
  cancelled i hi := by
    rcases mem_cancelled_record.mp hi with hold | ⟨-, hkind, hid⟩
    · obtain ⟨b, hb, hcancel⟩ := h.cancelled i hold
      exact ⟨b, mem_actions_record.mpr (.inl hb), hcancel⟩
    · exact ⟨a, mem_actions_record.mpr (.inr rfl), hkind, hid⟩
  removed i hi := by
    rcases mem_removed_record.mp hi with hold | ⟨-, hkind, hid⟩
    · obtain ⟨b, hb, hremove⟩ := h.removed i hold
      exact ⟨b, mem_actions_record.mpr (.inl hb), hremove⟩
    · exact ⟨a, mem_actions_record.mpr (.inr rfl), hkind, hid⟩

end Ledger

/-! ## Orders and deeds -/

namespace Carried

variable {l l' l'' : Ledger} {os os' : List Order} {o : Order} {deeds before after : List Deed} {x : Deed}

theorem actions (h : Carried l os deeds l') : l'.actions = l.actions ++ deeds.map Deed.action := by
  induction h with
  | nil l => simp
  | skipped _ _ ih => exact ih
  | done _ outcome _ ih => simp [ih, Deed.action]

theorem order_mem (h : Carried l os deeds l') (hx : x ∈ deeds) : x.order ∈ os := by
  induction h with
  | nil l => simp at hx
  | skipped _ _ ih => exact List.mem_cons_of_mem _ (ih hx)
  | done _ outcome _ ih =>
    rcases List.mem_cons.mp hx with rfl | hx
    · exact List.mem_cons_self
    · exact List.mem_cons_of_mem _ (ih hx)

theorem removed_mono (h : Carried l os deeds l') {i : Int} (hi : i ∈ l.removed) : i ∈ l'.removed := by
  induction h with
  | nil l => exact hi
  | skipped _ _ ih => exact ih hi
  | done _ outcome _ ih => exact ih (Ledger.mem_removed_record.mpr (.inl hi))

theorem actions_mono (h : Carried l os deeds l') {a : Action} (ha : a ∈ l.actions) : a ∈ l'.actions := by
  rw [h.actions]
  exact List.mem_append_left _ ha

theorem removed_of_cancels (h : Carried l os deeds l') (hcancels : ∀ o ∈ os, o.kind = .cancel) :
    l'.removed = l.removed := by
  induction h with
  | nil l => rfl
  | skipped _ _ ih => exact ih fun o ho => hcancels o (by simp [ho])
  | @done l _ o _ _ _ outcome _ ih =>
    have hcancel : (o.action outcome).kind = .cancel := hcancels o (by simp)
    rw [ih fun o ho => hcancels o (by simp [ho]), Ledger.removed_record_cancel hcancel]

theorem append {deeds' : List Deed} (h : Carried l os deeds l') (h' : Carried l' os' deeds' l'') :
    Carried l (os ++ os') (deeds ++ deeds') l'' := by
  induction h with
  | nil l => exact h'
  | skipped halready _ ih => exact .skipped halready (ih h')
  | done hfresh outcome _ ih => exact .done hfresh outcome (ih h')

theorem split (h : Carried l (os ++ os') deeds l'') :
    ∃ first rest l', deeds = first ++ rest ∧ Carried l os first l' ∧ Carried l' os' rest l'' := by
  induction os generalizing l deeds with
  | nil => exact ⟨[], deeds, l, rfl, .nil l, h⟩
  | cons o os ih =>
    cases h with
    | skipped halready hrest =>
      obtain ⟨first, rest, l', rfl, hfirst, hlast⟩ := ih hrest
      exact ⟨first, rest, l', rfl, .skipped halready hfirst, hlast⟩
    | done hfresh outcome hrest =>
      obtain ⟨first, rest, l', rfl, hfirst, hlast⟩ := ih hrest
      exact ⟨_ :: first, rest, l', rfl, .done hfresh outcome hfirst, hlast⟩

/-- **Every order is attended to**: the ledger has an action of its kind on its run, unless it was an order to cancel
a run that had been removed. -/
theorem attended (h : Carried l os deeds l') (hbacked : l.Backed) (ho : o ∈ os) :
    (∃ a ∈ l'.actions, a.kind = o.kind ∧ a.runId = o.run.id) ∨ (o.kind = .cancel ∧ o.run.id ∈ l'.removed) := by
  induction h with
  | nil l => simp at ho
  | @skipped l l' p os _ halready hrest ih =>
    rcases List.mem_cons.mp ho with rfl | ho
    · rcases Ledger.already_iff.mp halready with hremoved | ⟨hkind, hcancelled⟩
      · cases hkind : o.kind with
        | cancel => exact .inr ⟨rfl, hrest.removed_mono hremoved⟩
        | remove =>
          obtain ⟨a, ha, haction⟩ := hbacked.removed _ hremoved
          exact .inl ⟨a, hrest.actions_mono ha, haction⟩
      · obtain ⟨a, ha, haction⟩ := hbacked.cancelled _ hcancelled
        exact .inl ⟨a, hrest.actions_mono ha, hkind ▸ haction⟩
    · exact ih hbacked ho
  | @done l l' p os _ _ outcome hrest ih =>
    rcases List.mem_cons.mp ho with rfl | ho
    · have hrecorded : o.action outcome ∈ (l.record (o.action outcome)).actions := by simp
      exact .inl ⟨_, hrest.actions_mono hrecorded, rfl, rfl⟩
    · exact ih (hbacked.record _) ho

theorem deed_of_mem (h : Carried {} os deeds l') (ho : o ∈ os) :
    (∃ x ∈ deeds, x.order.kind = o.kind ∧ x.order.run.id = o.run.id) ∨ (o.kind = .cancel ∧ o.run.id ∈ l'.removed) := by
  have hactions : l'.actions = deeds.map Deed.action := by simpa using h.actions
  rcases h.attended .empty ho with ⟨a, ha, haction⟩ | hremoved
  · rw [hactions] at ha
    obtain ⟨x, hx, rfl⟩ := List.mem_map.mp ha
    exact .inl ⟨x, hx, haction⟩
  · exact .inr hremoved

/-- When it was the turn of a deed, the orders before its own had been carried out, and it was no repetition. -/
theorem turn (h : Carried l os (before ++ x :: after) l') :
    ∃ earlier later l₁, os = earlier ++ x.order :: later ∧ Carried l earlier before l₁ ∧
      l₁.already x.order.kind x.order.run.id = false := by
  generalize hdeeds : before ++ x :: after = deeds at h
  induction h generalizing before with
  | nil l => simp at hdeeds
  | @skipped l _ o os _ halready _ ih =>
    obtain ⟨earlier, later, l₁, rfl, hearlier, hfresh⟩ := ih hdeeds
    exact ⟨o :: earlier, later, l₁, rfl, .skipped halready hearlier, hfresh⟩
  | @done l _ o os _ hfresh outcome _ ih =>
    rcases before with _ | ⟨y, before⟩
    · obtain ⟨rfl, rfl⟩ := List.cons.inj hdeeds
      exact ⟨[], os, l, rfl, .nil l, hfresh⟩
    · obtain ⟨rfl, htail⟩ := List.cons.inj hdeeds
      obtain ⟨earlier, later, l₁, rfl, hearlier, hfresh'⟩ := ih htail
      exact ⟨o :: earlier, later, l₁, rfl, .done hfresh outcome hearlier, hfresh'⟩

end Carried

/-! ## Orders obeyed -/

namespace Governor

open Act

variable {σ : Type} {g : Governor σ} {s : Scope} {d d' : Desk σ} {l l' : Ledger} {o : Order} {os : List Order}

theorem obey_carried (h : g.obey l o s d = (.ok l', d')) : ∃ deeds, Carried l [o] deeds l' := by
  rcases halready : l.already o.kind o.run.id with _ | _
  · rw [obey_of_fresh halready] at h
    obtain ⟨outcome, d₁, -, hrest⟩ := ok_of_bind h
    obtain ⟨_, d₂, -, hrecorded⟩ := ok_of_bind hrest
    obtain rfl := Except.ok.inj (congrArg Prod.fst hrecorded)
    exact ⟨_, .done halready outcome (.nil _)⟩
  · rw [obey_of_already halready] at h
    obtain rfl := Except.ok.inj (congrArg Prod.fst h)
    exact ⟨_, .skipped halready (.nil _)⟩

/-- Orders that are obeyed to the last one are carried out. -/
theorem obeyAll_carried (h : g.obeyAll l os s d = (.ok l', d')) : ∃ deeds, Carried l os deeds l' := by
  induction os generalizing l d with
  | nil =>
    obtain rfl := Except.ok.inj (congrArg Prod.fst h)
    exact ⟨[], .nil l⟩
  | cons o os ih =>
    rw [obeyAll_cons] at h
    obtain ⟨l₁, d₁, hobey, hrest⟩ := ok_of_bind h
    obtain ⟨first, hfirst⟩ := obey_carried hobey
    obtain ⟨rest, hrest⟩ := ih hrest
    exact ⟨_, hfirst.append hrest⟩

end Governor

end RunSteward
