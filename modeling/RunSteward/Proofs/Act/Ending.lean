import RunSteward.Proofs.Act.Result

/-!
# Acts that end

That a pass never breaks off is a statement about all its acts: from every world in `P` an act ends with a
result, and `Q` holds of the result and of the world that is left (`Act.Ends`). A request to a host may also be
refused (`Act.Answers`); an attempt at such a request ends.
-/

namespace RunSteward.Act

variable {σ α β : Type}

/-- An act that ends with a result wherever the world is in `P`; of the result and the world after it `Q` holds. -/
def Ends (P : σ → Prop) (x : Act σ α) (Q : α → σ → Prop) : Prop :=
  ∀ s d, P d.world → ∃ a d', x s d = (.ok a, d') ∧ Q a d'.world

/-- An act that ends with a result or a refusal wherever the world is in `P`. -/
def Answers (P : σ → Prop) (x : Act σ α) (Q : Except HostError α → σ → Prop) : Prop :=
  ∀ s d, P d.world → ∃ r d', x s d = (Except.mapError Failure.host r, d') ∧ Q r d'.world

variable {P P' : σ → Prop} {x : Act σ α} {Q Q' : α → σ → Prop}

theorem ends_pure {a : α} (h : ∀ w, P w → Q a w) : Ends P (pure a) Q :=
  fun _ d hP => ⟨a, d, rfl, h _ hP⟩

theorem ends_record (level : LogLevel) (logger message : String) :
    Ends P (record level logger message) fun _ => P :=
  fun _ _ hP => ⟨(), _, rfl, hP⟩

theorem Notes.ends {a : α} (h : Notes x a) (ha : ∀ w, P w → Q a w) : Ends P x Q := by
  intro s d hd
  obtain ⟨log, hend⟩ := h s d
  exact ⟨a, _, hend, ha _ hd⟩

theorem Ends.mono (h : Ends P x Q) (hP : ∀ w, P' w → P w) (hQ : ∀ a w, Q a w → Q' a w) : Ends P' x Q' := by
  intro s d hd
  obtain ⟨a, d', hend, ha⟩ := h s d (hP _ hd)
  exact ⟨a, d', hend, hQ _ _ ha⟩

theorem Ends.bind {f : α → Act σ β} {R : β → σ → Prop} (hx : Ends P x Q) (hf : ∀ a, Ends (Q a) (f a) R) :
    Ends P (x >>= f) R := by
  intro s d hd
  obtain ⟨a, d₁, hfirst, ha⟩ := hx s d hd
  obtain ⟨b, d₂, hrest, hb⟩ := hf a s d₁ ha
  exact ⟨b, d₂, (bind_of_ok f hfirst).trans hrest, hb⟩

theorem Ends.outcome_bind {f : Except Failure α → Act σ β} {R : β → σ → Prop} (hx : Ends P x Q)
    (hf : ∀ a, Ends (Q a) (f (.ok a)) R) : Ends P (outcome x >>= f) R := by
  intro s d hd
  obtain ⟨a, d₁, hfirst, ha⟩ := hx s d hd
  obtain ⟨b, d₂, hrest, hb⟩ := hf a s d₁ ha
  have houtcome : Act.outcome x s d = (.ok (.ok a), d₁) := by rw [outcome_apply, hfirst]
  exact ⟨b, d₂, (bind_of_ok f houtcome).trans hrest, hb⟩

theorem Ends.within (change : Scope → Scope) (h : Ends P x Q) : Ends P (within change x) Q :=
  fun s d hd => h (change s) d hd

theorem Answers.attempt {Q : Except HostError α → σ → Prop} (h : Answers P x Q) : Ends P (attempt x) Q := by
  intro s d hd
  obtain ⟨r, d', hend, hr⟩ := h s d hd
  exact ⟨r, d', attempt_eq_ok.mpr hend, hr⟩

theorem Answers.mono {Q Q' : Except HostError α → σ → Prop} (h : Answers P x Q) (hP : ∀ w, P' w → P w)
    (hQ : ∀ r w, Q r w → Q' r w) : Answers P' x Q' := by
  intro s d hd
  obtain ⟨r, d', hend, hr⟩ := h s d (hP _ hd)
  exact ⟨r, d', hend, hQ _ _ hr⟩

end RunSteward.Act
