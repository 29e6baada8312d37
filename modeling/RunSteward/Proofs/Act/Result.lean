import RunSteward.Act

/-!
# Results of acts

How an act ends is put together from how its parts end (`bind_of_ok`, `bind_of_error` and their companions),
so that proofs about longer acts never open the definitions of `Act`. What acts have in common however they end is kept
by putting them together, too: what they leave alone (`Keeps`), and what they depend on (`Worldly`).
-/

namespace RunSteward

variable {σ α β : Type} {s : Scope} {d d' : Desk σ}

namespace Act

@[simp] theorem pure_apply (a : α) : (pure a : Act σ α) s d = (.ok a, d) := rfl

/-! ## One act after another -/

theorem bind_of_ok {x : Act σ α} (f : α → Act σ β) {a : α} (h : x s d = (.ok a, d')) :
    (x >>= f) s d = f a s d' := by
  change Act.bind x f s d = _
  unfold Act.bind
  rw [h]

theorem bind_of_error {x : Act σ α} (f : α → Act σ β) {e : Failure} (h : x s d = (.error e, d')) :
    (x >>= f) s d = (.error e, d') := by
  change Act.bind x f s d = _
  unfold Act.bind
  rw [h]

theorem ok_of_bind {x : Act σ α} {f : α → Act σ β} {b : β} (h : (x >>= f) s d = (.ok b, d')) :
    ∃ a d₁, x s d = (.ok a, d₁) ∧ f a s d₁ = (.ok b, d') := by
  rcases hx : x s d with ⟨e | a, d₁⟩
  · rw [bind_of_error f hx] at h
    cases h
  · rw [bind_of_ok f hx] at h
    exact ⟨a, d₁, rfl, h⟩

/-! ## Recovering -/

theorem attempt_of_ok {x : Act σ α} {a : α} (h : x s d = (.ok a, d')) :
    attempt x s d = (.ok (.ok a), d') := by
  simp [attempt, h]

theorem attempt_of_refusal {x : Act σ α} {e : HostError} (h : x s d = (.error (.host e), d')) :
    attempt x s d = (.ok (.error e), d') := by
  simp [attempt, h]

theorem attempt_of_fault {x : Act σ α} {f : Fault} (h : x s d = (.error (.fault f), d')) :
    attempt x s d = (.error (.fault f), d') := by
  simp [attempt, h]

theorem attempt_eq_ok {x : Act σ α} {r : Except HostError α} :
    attempt x s d = (.ok r, d') ↔ x s d = (r.mapError Failure.host, d') := by
  have herror : ∀ e, (.error e : Except HostError α).mapError Failure.host = .error (.host e) := fun _ => rfl
  have hok : ∀ a, (.ok a : Except HostError α).mapError Failure.host = .ok a := fun _ => rfl
  rcases hx : x s d with ⟨(e | f) | a, d₁⟩
  · rw [attempt_of_refusal hx]
    cases r <;> simp [herror, hok]
  · rw [attempt_of_fault hx]
    cases r <;> simp [herror, hok]
  · rw [attempt_of_ok hx]
    cases r <;> simp [herror, hok]

/-- Of the failures of an act an attempt leaves the faults alone. -/
theorem fault_of_attempt {x : Act σ α} {e : Failure} (h : attempt x s d = (.error e, d')) : ∃ f, e = .fault f := by
  rcases hx : x s d with ⟨(x | f) | a, d₁⟩
  · rw [attempt_of_refusal hx] at h
    cases h
  · rw [attempt_of_fault hx] at h
    cases h
    exact ⟨f, rfl⟩
  · rw [attempt_of_ok hx] at h
    cases h

@[simp] theorem outcome_apply (x : Act σ α) : outcome x s d = (.ok (x s d).1, (x s d).2) := rfl

theorem bind_outcome {x : Act σ α} (f : Except Failure α → Act σ β) {r : Except Failure α} (h : x s d = (r, d')) :
    (outcome x >>= f) s d = f r s d' :=
  bind_of_ok f (by rw [outcome_apply, h])

/-! ## Every end of an act

What holds of the world however an act ends, and what all failures of an act have in common. -/

section Keeps

variable {P : σ → Prop} {E : Failure → Prop} {x : Act σ α}

/-- An act that leaves a world in `P` where it finds one, and fails with nothing but what `E` admits. -/
def Keeps (P : σ → Prop) (E : Failure → Prop) (x : Act σ α) : Prop :=
  ∀ s d, P d.world → P (x s d).2.world ∧ ∀ f, (x s d).1 = .error f → E f

theorem keeps_pure (a : α) : Keeps P E (pure a : Act σ α) := by
  intro s d hd
  exact ⟨hd, by simp⟩

theorem keeps_fail {f : Failure} (hf : E f) : Keeps P E (fail f : Act σ α) := by
  intro s d hd
  refine ⟨hd, fun f' h => ?_⟩
  obtain rfl : f = f' := Except.error.inj h
  exact hf

theorem keeps_record (level : LogLevel) (logger message : String) :
    Keeps P E (record level logger message : Act σ Unit) := by
  intro s d hd
  refine ⟨hd, fun f h => ?_⟩
  cases h

theorem Keeps.bind {f : α → Act σ β} (hx : Keeps P E x) (hf : ∀ a, Keeps P E (f a)) : Keeps P E (x >>= f) := by
  intro s d hd
  obtain ⟨hworld, hfails⟩ := hx s d hd
  rcases hend : x s d with ⟨e | a, d₁⟩ <;> rw [hend] at hworld hfails
  · rw [bind_of_error f hend]
    refine ⟨hworld, fun e' h => hfails e' ?_⟩
    obtain rfl : e = e' := Except.error.inj h
    rfl
  · rw [bind_of_ok f hend]
    exact hf a s d₁ hworld

theorem Keeps.attempt (h : Keeps P E x) : Keeps P E (attempt x) := by
  intro s d hd
  obtain ⟨hworld, hfails⟩ := h s d hd
  rcases hend : x s d with ⟨(e | f) | a, d₁⟩ <;> rw [hend] at hworld hfails
  · rw [attempt_of_refusal hend]
    exact ⟨hworld, by simp⟩
  · rw [attempt_of_fault hend]
    refine ⟨hworld, fun f' hf => hfails f' ?_⟩
    obtain rfl : Failure.fault f = f' := Except.error.inj hf
    rfl
  · rw [attempt_of_ok hend]
    exact ⟨hworld, by simp⟩

end Keeps

/-! ## Acts that only write the log -/

section Notes

variable {x : Act σ α} {a : α}

/-- An act that gives a result in any case, and leaves the world as it is. -/
def Notes (x : Act σ α) (a : α) : Prop :=
  ∀ s d, ∃ log, x s d = (.ok a, { d with log := log })

theorem notes_pure (a : α) : Notes (pure a : Act σ α) a :=
  fun _ d => ⟨d.log, rfl⟩

theorem notes_record (level : LogLevel) (logger message : String) :
    Notes (record level logger message : Act σ Unit) () :=
  fun _ _ => ⟨_, rfl⟩

theorem Notes.bind {f : α → Act σ β} {b : β} (hx : Notes x a) (hf : Notes (f a) b) : Notes (x >>= f) b := by
  intro s d
  obtain ⟨log, hfirst⟩ := hx s d
  obtain ⟨log', hrest⟩ := hf s { d with log := log }
  exact ⟨log', (bind_of_ok f hfirst).trans hrest⟩

theorem notes_forM {f : α → Act σ Unit} (hf : ∀ a, Notes (f a) ()) (xs : List α) : Notes (xs.forM f) () := by
  induction xs with
  | nil => exact notes_pure ()
  | cons y ys ih => exact Notes.bind (hf y) ih

/-- An act whose end is settled, be it a result or a fault, and which leaves the world as it is. -/
def Settles (x : Act σ α) (r : Except Fault α) : Prop :=
  ∀ s d, ∃ log, x s d = (r.mapError .fault, { d with log := log })

theorem Notes.settles (h : Notes x a) : Settles x (.ok a) :=
  h

theorem settles_orHalt (r : Except Fault α) : Settles (orHalt r : Act σ α) r := by
  intro s d
  cases r <;> exact ⟨d.log, rfl⟩

theorem Settles.bind {r : Except Fault α} {f : α → Act σ β} {g : α → Except Fault β} (hx : Settles x r)
    (hf : ∀ a, Settles (f a) (g a)) : Settles (x >>= f) (r >>= g) := by
  intro s d
  obtain ⟨log, hfirst⟩ := hx s d
  cases r with
  | error e => exact ⟨log, bind_of_error f hfirst⟩
  | ok a =>
    obtain ⟨log', hrest⟩ := hf a s { d with log := log }
    exact ⟨log', (bind_of_ok f hfirst).trans hrest⟩

theorem Notes.then {f : α → Act σ β} {r : Except Fault β} (hx : Notes x a) (hf : Settles (f a) r) :
    Settles (x >>= f) r := by
  intro s d
  obtain ⟨log, hfirst⟩ := hx s d
  obtain ⟨log', hrest⟩ := hf s { d with log := log }
  exact ⟨log', (bind_of_ok f hfirst).trans hrest⟩

/-- To note what an act gave does not change how it ends. -/
theorem Settles.noted {r : Except Fault α} {f : α → Act σ α} (hx : Settles x r) (hf : ∀ a, Notes (f a) a) :
    Settles (x >>= f) r := by
  have hnoted : Settles (x >>= f) (r >>= pure) := hx.bind fun a => (hf a).settles
  rwa [bind_pure] at hnoted

end Notes

/-! ## Acts that look at the world alone -/

section Worldly

variable {x : Act σ α}

/-- An act whose end and effect depend on the world alone: neither the scope nor the log matters to them. -/
def Worldly (x : Act σ α) : Prop :=
  ∀ s s' (d d' : Desk σ), d.world = d'.world → (x s d).1 = (x s' d').1 ∧ (x s d).2.world = (x s' d').2.world

theorem worldly_pure (a : α) : Worldly (pure a : Act σ α) :=
  fun _ _ _ _ h => ⟨rfl, h⟩

theorem worldly_fail (f : Failure) : Worldly (fail f : Act σ α) :=
  fun _ _ _ _ h => ⟨rfl, h⟩

theorem worldly_record (level : LogLevel) (logger message : String) :
    Worldly (record level logger message : Act σ Unit) :=
  fun _ _ _ _ h => ⟨rfl, h⟩

theorem Worldly.bind {f : α → Act σ β} (hx : Worldly x) (hf : ∀ a, Worldly (f a)) : Worldly (x >>= f) := by
  intro s s' d d' h
  obtain ⟨hend, hworld⟩ := hx s s' d d' h
  rcases hfirst : x s d with ⟨e | a, d₁⟩ <;> rcases hfirst' : x s' d' with ⟨e' | a', d₁'⟩ <;>
    rw [hfirst, hfirst'] at hend hworld
  · rw [bind_of_error f hfirst, bind_of_error f hfirst']
    exact ⟨by rw [Except.error.inj hend], hworld⟩
  · cases hend
  · cases hend
  · rw [bind_of_ok f hfirst, bind_of_ok f hfirst', Except.ok.inj hend]
    exact hf a' s s' d₁ d₁' hworld

end Worldly

/-! ## Results in view

Where a view of the world tells how acts end, they are computed with the view in place of the world. -/

section View

variable {ρ : Type} {view : σ → ρ} {v v' v'' : ρ} {x : Act σ α} {a : α}

/-- An act that gives a result wherever the world looks like `v`, and leaves it looking like `v'`. -/
def Gives (view : σ → ρ) (v : ρ) (x : Act σ α) (a : α) (v' : ρ) : Prop :=
  ∀ s d, view d.world = v → ∃ d', x s d = (.ok a, d') ∧ view d'.world = v'

theorem gives_pure : Gives view v (pure a : Act σ α) a v :=
  fun _ d hd => ⟨d, rfl, hd⟩

theorem gives_record (level : LogLevel) (logger message : String) :
    Gives view v (record level logger message) () v :=
  fun _ _ hd => ⟨_, rfl, hd⟩

theorem Gives.bind {f : α → Act σ β} {b : β} (hx : Gives view v x a v') (hf : Gives view v' (f a) b v'') :
    Gives view v (x >>= f) b v'' := by
  intro s d hd
  obtain ⟨d₁, hfirst, hd₁⟩ := hx s d hd
  obtain ⟨d₂, hrest, hd₂⟩ := hf s d₁ hd₁
  exact ⟨d₂, (bind_of_ok f hfirst).trans hrest, hd₂⟩

theorem Gives.attempt (h : Gives view v x a v') : Gives view v (attempt x) (.ok a) v' := by
  intro s d hd
  obtain ⟨d', hend, hd'⟩ := h s d hd
  exact ⟨d', attempt_of_ok hend, hd'⟩

theorem Gives.outcome (h : Gives view v x a v') : Gives view v (outcome x) (.ok a) v' := by
  intro s d hd
  obtain ⟨d', hend, hd'⟩ := h s d hd
  exact ⟨d', by rw [outcome_apply, hend], hd'⟩

theorem Gives.within (change : Scope → Scope) (h : Gives view v x a v') :
    Gives view v (within change x) a v' :=
  fun s d hd => h (change s) d hd

end View

end Act

end RunSteward
