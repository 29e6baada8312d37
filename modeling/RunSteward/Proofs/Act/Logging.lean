import RunSteward.Proofs.Act.Result

/-!
# What acts log

An act only adds records to the log. That all records it adds are of one kind, however the act ends, is
`Act.Logs`; the kind may depend on the scope in which the act is done.
-/

namespace RunSteward.Act

variable {σ τ α β : Type} {s : Scope} {P : LogRecord → Prop} {x : Act σ α}

/-- An act that, done in a scope, logs nothing but records in `P`. -/
def Logs (s : Scope) (P : LogRecord → Prop) (x : Act σ α) : Prop :=
  ∀ d, ∃ records, (x s d).2.log.toList = d.log.toList ++ records ∧ ∀ r ∈ records, P r

theorem logs_of_still (h : ∀ d, (x s d).2.log = d.log) : Logs s P x :=
  fun d => ⟨[], by rw [h, List.append_nil], by simp⟩

theorem logs_pure (a : α) : Logs s P (pure a : Act σ α) :=
  logs_of_still fun _ => rfl

theorem logs_fail (f : Failure) : Logs s P (fail f : Act σ α) :=
  logs_of_still fun _ => rfl

theorem logs_outside (f : σ → α × σ) : Logs s P (outside f) :=
  logs_of_still fun _ => rfl

theorem logs_orHalt (r : Except Fault α) : Logs s P (orHalt r : Act σ α) := by
  cases r with
  | error f => exact logs_fail _
  | ok a => exact logs_pure a

theorem logs_orRefuse (r : Except HostError α) : Logs s P (orRefuse r : Act σ α) := by
  cases r with
  | error e => exact logs_fail _
  | ok a => exact logs_pure a

theorem logs_conclude (r : Except Failure α) : Logs s P (conclude r : Act σ α) := by
  cases r with
  | error e => exact logs_fail e
  | ok a => exact logs_pure a

theorem logs_record {level : LogLevel} {logger message : String} (h : P ⟨level, logger, s, message⟩) :
    Logs s P (record level logger message : Act σ Unit) :=
  fun d => ⟨[⟨level, logger, s, message⟩], Array.toList_push, by simpa using h⟩

theorem Logs.bind {f : α → Act σ β} (hx : Logs s P x) (hf : ∀ a, Logs s P (f a)) : Logs s P (x >>= f) := by
  intro d
  obtain ⟨before, hbefore, hP⟩ := hx d
  rcases hend : x s d with ⟨e | a, d'⟩ <;> rw [hend] at hbefore
  · exact ⟨before, by rw [bind_of_error f hend]; exact hbefore, hP⟩
  · obtain ⟨after, hafter, hP'⟩ := hf a d'
    refine ⟨before ++ after, ?_, fun r hr => ?_⟩
    · rw [bind_of_ok f hend, hafter, hbefore, List.append_assoc]
    · rcases List.mem_append.mp hr with hr | hr
      · exact hP r hr
      · exact hP' r hr

theorem Logs.attempt (h : Logs s P x) : Logs s P (attempt x) := by
  intro d
  obtain ⟨records, hrecords, hP⟩ := h d
  refine ⟨records, ?_, hP⟩
  rcases hend : x s d with ⟨(e | f) | a, d'⟩ <;> rw [hend] at hrecords
  · rw [attempt_of_refusal hend]
    exact hrecords
  · rw [attempt_of_fault hend]
    exact hrecords
  · rw [attempt_of_ok hend]
    exact hrecords

theorem Logs.outcome (h : Logs s P x) : Logs s P (outcome x) :=
  h

theorem Logs.mono {Q : LogRecord → Prop} (h : Logs s P x) (hPQ : ∀ r, P r → Q r) : Logs s Q x := by
  intro d
  obtain ⟨records, hrecords, hP⟩ := h d
  exact ⟨records, hrecords, fun r hr => hPQ r (hP r hr)⟩

theorem Logs.focus (view : τ → σ) (update : σ → τ → τ) (h : Logs s P x) : Logs s P (focus view update x) :=
  fun d => h ⟨view d.world, d.log⟩

end RunSteward.Act
