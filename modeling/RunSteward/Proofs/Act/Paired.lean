import RunSteward.Proofs.Act.Result

/-!
# Pairs of acts

Two acts on two worlds are compared by running both from desks that stand in a relation. They agree if
both give results or both fail alike; what then holds of the results and the desks is up to two more
relations (`Paired`). Acts that only look something up give equal results and keep one relation, whatever
it is (`Alike`).
-/

namespace RunSteward.Act

variable {σ τ α β α' β' : Type}

/-- How two ended acts agree: both gave results in relation `Q`, or both failed with the same failure and
left desks in relation `E`. -/
inductive Agree (Q : α → β → Desk σ → Desk τ → Prop) (E : Desk σ → Desk τ → Prop) :
    Except Failure α × Desk σ → Except Failure β × Desk τ → Prop where
  | result {a : α} {b : β} {d : Desk σ} {e : Desk τ} (h : Q a b d e) : Agree Q E (.ok a, d) (.ok b, e)
  | failure (f : Failure) {d : Desk σ} {e : Desk τ} (h : E d e) : Agree Q E (.error f, d) (.error f, e)

/-- Two acts that agree, in every scope, when they start from desks in relation `P`. -/
def Paired (P : Desk σ → Desk τ → Prop) (x : Act σ α) (y : Act τ β)
    (Q : α → β → Desk σ → Desk τ → Prop) (E : Desk σ → Desk τ → Prop) : Prop :=
  ∀ s d e, P d e → Agree Q E (x s d) (y s e)

/-- Two acts that give the same and keep a relation between their desks. -/
def Alike (R : Desk σ → Desk τ → Prop) (x : Act σ α) (y : Act τ α) : Prop :=
  Paired R x y (fun a b d e => a = b ∧ R d e) R

/-! ## Rules for pairs -/

section Paired

variable {P P' : Desk σ → Desk τ → Prop} {x : Act σ α} {y : Act τ β}
  {Q Q' : α → β → Desk σ → Desk τ → Prop} {E E' : Desk σ → Desk τ → Prop}

theorem paired_pure {a : α} {b : β} (h : ∀ d e, P d e → Q a b d e) :
    Paired P (pure a) (pure b) Q E :=
  fun _ d e hP => .result (h d e hP)

theorem Agree.mono {p : Except Failure α × Desk σ} {q : Except Failure β × Desk τ}
    (h : Agree Q E p q) (hQ : ∀ a b d e, Q a b d e → Q' a b d e) (hE : ∀ d e, E d e → E' d e) :
    Agree Q' E' p q := by
  cases h with
  | result hres => exact .result (hQ _ _ _ _ hres)
  | failure f hfail => exact .failure f (hE _ _ hfail)

theorem Agree.fst_eq {Q : α → α → Desk σ → Desk τ → Prop} {p : Except Failure α × Desk σ}
    {q : Except Failure α × Desk τ} (h : Agree Q E p q) (hQ : ∀ a b d e, Q a b d e → a = b) : p.1 = q.1 := by
  cases h with
  | result hres => exact congrArg Except.ok (hQ _ _ _ _ hres)
  | failure f _ => rfl

theorem Paired.mono (h : Paired P x y Q E) (hQ : ∀ a b d e, Q a b d e → Q' a b d e)
    (hE : ∀ d e, E d e → E' d e) : Paired P x y Q' E' :=
  fun s d e hP => (h s d e hP).mono hQ hE

theorem Paired.bind {f : α → Act σ α'} {g : β → Act τ β'} {Q' : α' → β' → Desk σ → Desk τ → Prop}
    (hx : Paired P x y Q E) (hf : ∀ a b, Paired (Q a b) (f a) (g b) Q' E) :
    Paired P (x >>= f) (y >>= g) Q' E := by
  intro s d e hP
  change Agree Q' E (Act.bind x f s d) (Act.bind y g s e)
  have hagree := hx s d e hP
  unfold Act.bind
  generalize x s d = p, y s e = q at hagree ⊢
  cases hagree with
  | result hres => exact hf _ _ s _ _ hres
  | failure f hfail => exact .failure f hfail

theorem Paired.outcome (h : Paired P x y Q E) :
    Paired P (outcome x) (outcome y)
      (fun a b d e => Agree Q E (a, d) (b, e)) E' :=
  fun s d e hP => .result (h s d e hP)

theorem Paired.within (change : Scope → Scope) (h : Paired P x y Q E) :
    Paired P (within change x) (within change y) Q E :=
  fun s d e hP => h (change s) d e hP

end Paired

/-! ## Rules for acts that are alike -/

section Alike

variable {R : Desk σ → Desk τ → Prop} {x : Act σ α} {y : Act τ α}

theorem alike_pure (a : α) : Alike R (pure a) (pure a) :=
  paired_pure fun _ _ h => ⟨rfl, h⟩

theorem alike_fail (f : Failure) : Alike R (fail f : Act σ α) (fail f) :=
  fun _ _ _ h => .failure f h

theorem alike_orHalt (r : Except Fault α) : Alike R (orHalt r) (orHalt r) := by
  cases r with
  | error f => exact alike_fail _
  | ok a => exact alike_pure a

theorem Alike.bind {f : α → Act σ β} {g : α → Act τ β} (hx : Alike R x y)
    (hf : ∀ a, Alike R (f a) (g a)) : Alike R (x >>= f) (y >>= g) := by
  refine Paired.bind hx fun a b => ?_
  rintro s d e ⟨rfl, h⟩
  exact hf a s d e h

theorem alike_forM {f : α → Act σ Unit} {g : α → Act τ Unit} (h : ∀ a, Alike R (f a) (g a)) (xs : List α) :
    Alike R (xs.forM f) (xs.forM g) := by
  induction xs with
  | nil => exact alike_pure ()
  | cons a xs ih => exact Alike.bind (h a) fun _ => ih

theorem Alike.attempt (h : Alike R x y) : Alike R (attempt x) (attempt y) := by
  intro s d e hR
  have hagree := h s d e hR
  unfold Act.attempt
  generalize x s d = p, y s e = q at hagree ⊢
  cases hagree with
  | result hres =>
    obtain ⟨rfl, hres⟩ := hres
    exact .result ⟨rfl, hres⟩
  | failure f hfail =>
    cases f with
    | host e => exact .result ⟨rfl, hfail⟩
    | fault f => exact .failure _ hfail

theorem Alike.outcomes (h : Alike R x y) : Alike R (outcome x) (outcome y) := by
  intro s d e hR
  rw [outcome_apply, outcome_apply]
  have hagree := h s d e hR
  generalize x s d = p, y s e = q at hagree ⊢
  cases hagree with
  | result hres =>
    obtain ⟨rfl, hres⟩ := hres
    exact .result ⟨rfl, hres⟩
  | failure f hfail => exact .result ⟨rfl, hfail⟩

theorem Alike.same (h : Alike R x y) {s : Scope} {d : Desk σ} {e : Desk τ} (hR : R d e) :
    (x s d).1 = (y s e).1 ∧ R (x s d).2 (y s e).2 := by
  have hagree := h s d e hR
  generalize x s d = p, y s e = q at hagree ⊢
  cases hagree with
  | result hres => exact ⟨congrArg Except.ok hres.1, hres.2⟩
  | failure f hfail => exact ⟨rfl, hfail⟩

theorem alike_of_same (h : ∀ s d e, R d e → (x s d).1 = (y s e).1 ∧ R (x s d).2 (y s e).2) :
    Alike R x y := by
  intro s d e hR
  obtain ⟨hres, hdesk⟩ := h s d e hR
  generalize x s d = p, y s e = q at hres hdesk ⊢
  obtain ⟨f | a, d'⟩ := p <;> obtain ⟨f' | b, e'⟩ := q <;> cases hres
  · exact .failure f hdesk
  · exact .result ⟨rfl, hdesk⟩

/-- What does not speak of the desks is kept in any case. -/
theorem Alike.given {p : Prop} (h : Alike R x y) : Alike (fun d e => p ∧ R d e) x y := by
  rintro s d e ⟨hp, hR⟩
  exact (h s d e hR).mono (fun _ _ _ _ hres => ⟨hres.1, hp, hres.2⟩) fun _ _ hfail => ⟨hp, hfail⟩

/-- After acts that are alike, the rest runs on the result they have in common. -/
theorem Alike.then {f : α → Act σ α'} {g : α → Act τ β'} {Q : α' → β' → Desk σ → Desk τ → Prop}
    {E : Desk σ → Desk τ → Prop} (hx : Alike R x y) (hE : ∀ d e, R d e → E d e)
    (hf : ∀ a, Paired R (f a) (g a) Q E) : Paired R (x >>= f) (y >>= g) Q E := by
  refine Paired.bind (hx.mono (fun _ _ _ _ h => h) hE) fun a b => ?_
  rintro s d e ⟨rfl, h⟩
  exact hf a s d e h

end Alike

end RunSteward.Act
