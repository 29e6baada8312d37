import RunSteward.Failure
import RunSteward.Log.Record

/-!
# Acts

An act is work that looks at and changes the outside world, writes the log and may fail. What it changed and logged
before a failure stays. The log records carry the scope in which the act runs.
-/

namespace RunSteward

/-- The outside world together with the log so far. -/
structure Desk (σ : Type) where
  world : σ
  log : Array LogRecord := #[]

/-- Work on a world of type `σ` with a result of type `α`. -/
def Act (σ α : Type) : Type :=
  Scope → Desk σ → Except Failure α × Desk σ

namespace Act

variable {σ α β : Type}

/-- The act that does nothing and gives a result. -/
protected def pure (a : α) : Act σ α :=
  fun _ d => (.ok a, d)

/-- One act after another; a failure of the first is the failure of both. -/
protected def bind (x : Act σ α) (f : α → Act σ β) : Act σ β :=
  fun s d =>
    match x s d with
    | (.ok a, d) => f a s d
    | (.error e, d) => (.error e, d)

instance : Monad (Act σ) where
  pure := Act.pure
  bind := Act.bind

instance : LawfulMonad (Act σ) :=
  LawfulMonad.mk' _
    (fun x => by
      funext s d
      change Act.bind x (fun a => Act.pure (id a)) s d = x s d
      unfold Act.bind
      rcases x s d with ⟨_ | _, _⟩ <;> rfl)
    (fun _ _ => rfl)
    (fun x f g => by
      funext s d
      change Act.bind (Act.bind x f) g s d = Act.bind x (fun a => Act.bind (f a) g) s d
      unfold Act.bind
      rcases x s d with ⟨_ | _, _⟩ <;> rfl)

/-! ## Failing and recovering -/

def fail (e : Failure) : Act σ α :=
  fun _ d => (.error e, d)

/-- The act that fails with a host error. -/
def refuse (e : HostError) : Act σ α :=
  fail (.host e)

/-- The act that fails with a fault. -/
def halt (f : Fault) : Act σ α :=
  fail (.fault f)

/-- Does an act and gives a host error as a result; a fault passes through. -/
def attempt (x : Act σ α) : Act σ (Except HostError α) :=
  fun s d =>
    match x s d with
    | (.ok a, d) => (.ok (.ok a), d)
    | (.error (.host e), d) => (.ok (.error e), d)
    | (.error (.fault f), d) => (.error (.fault f), d)

/-- Does an act and gives every failure as a result. -/
def outcome (x : Act σ α) : Act σ (Except Failure α) :=
  fun s d =>
    let r := x s d
    (.ok r.1, r.2)

/-- Gives the result of an outcome, or fails as it did. -/
def conclude : Except Failure α → Act σ α
  | .ok a => pure a
  | .error e => fail e

/-- Gives the result, or fails with the fault. -/
def orHalt : Except Fault α → Act σ α
  | .ok a => pure a
  | .error f => halt f

/-- Gives the result, or fails with the host error. -/
def orRefuse : Except HostError α → Act σ α
  | .ok a => pure a
  | .error e => refuse e

/-! ## World and scope -/

/-- Does something in the outside world. -/
def outside (f : σ → α × σ) : Act σ α :=
  fun _ d =>
    let r := f d.world
    (.ok r.1, { d with world := r.2 })

/-- Does an act on a part of the world, given how to look at the part and how to put it back. -/
def focus {τ : Type} (view : τ → σ) (update : σ → τ → τ) (x : Act σ α) : Act τ α :=
  fun s d =>
    let r := x s ⟨view d.world, d.log⟩
    (r.1, ⟨update r.2.world d.world, r.2.log⟩)

/-- Does an act in another scope. -/
def within (change : Scope → Scope) (x : Act σ α) : Act σ α :=
  fun s d => x (change s) d

def forRepo (repo : String) (x : Act σ α) : Act σ α :=
  within (fun s => { s with repo := some repo }) x

/-- Does an act in a worker of the pool. -/
def inWorker (number : Nat) (x : Act σ α) : Act σ α :=
  within (Scope.worker number) x

/-! ## Logging -/

def record (level : LogLevel) (logger message : String) : Act σ Unit :=
  fun s d => (.ok (), { d with log := d.log.push ⟨level, logger, s, message⟩ })

def info (logger event : String) (fields : LogFields) : Act σ Unit :=
  record .info logger (LogEvent.message event fields)

def warn (logger event : String) (fields : LogFields) : Act σ Unit :=
  record .warning logger (LogEvent.message event fields)

/-- The fields that tell of a host error. -/
def errorFields (e : HostError) : LogFields :=
  [("error_type", .text e.kind.name), ("error", .text e.message)]

end Act

end RunSteward
