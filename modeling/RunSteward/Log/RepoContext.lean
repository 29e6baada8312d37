import RunSteward.Act

/-!
# Repository contexts

Every thread keeps the repository that it works for, and a record is tagged with what the thread that logs it keeps.
Work for a repository puts its name there on the way in, and puts back what was there before on the way out, whether it
gives a result or fails. The threads of the pool keep nothing when they start; work that is handed to them takes the
repository of the thread that hands it over along.
-/

namespace RunSteward

/-- A thread: one that the program is called in, or one of the pool that looks for duplicate runs. -/
inductive WorkThread where
  | caller (name : String)
  | pool (number : Nat)
deriving DecidableEq, Repr

/-- The name of a thread in the log. -/
def WorkThread.name : WorkThread → String
  | .caller name => name
  | .pool number => "repowarden-dedupe_" ++ toString number

/-- The repository that each thread works for, and the desk that the threads share. -/
structure Office (σ : Type) where
  repos : WorkThread → Option String
  desk : Desk σ

variable {σ τ α β : Type}

namespace Office

/-- An office in which the threads of the pool have not begun to work. -/
def opened (callers : String → Option String) (desk : Desk σ) : Office σ where
  repos
    | .caller name => callers name
    | .pool _ => none
  desk := desk

/-- The scope of what a thread logs. -/
def scopeOf (o : Office σ) (t : WorkThread) : Scope :=
  ⟨t.name, o.repos t⟩

/-- Puts down what a thread works for. -/
def assign (o : Office σ) (t : WorkThread) (repo : Option String) : Office σ :=
  { o with repos := fun u => if u = t then repo else o.repos u }

end Office

/-- Work of a thread in an office. -/
def ThreadAct (σ α : Type) : Type :=
  WorkThread → Office σ → Except Failure α × Office σ

namespace ThreadAct

protected def pure (a : α) : ThreadAct σ α :=
  fun _ o => (.ok a, o)

/-- Some work after other work; a failure of the first is the failure of both. -/
protected def bind (m : ThreadAct σ α) (k : α → ThreadAct σ β) : ThreadAct σ β :=
  fun t o =>
    match m t o with
    | (.ok a, o) => k a t o
    | (.error e, o) => (.error e, o)

instance : Monad (ThreadAct σ) where
  pure := ThreadAct.pure
  bind := ThreadAct.bind

def fail (e : Failure) : ThreadAct σ α :=
  fun _ o => (.error e, o)

def outside (f : σ → α × σ) : ThreadAct σ α :=
  fun _ o =>
    let r := f o.desk.world
    (.ok r.1, { o with desk := { o.desk with world := r.2 } })

/-- Logs a message, tagged with what the thread works for. -/
def record (level : LogLevel) (logger message : String) : ThreadAct σ Unit :=
  fun t o => (.ok (), { o with desk := { o.desk with log := o.desk.log.push ⟨level, logger, o.scopeOf t, message⟩ } })

/-- Does some work and gives a host error as a result; a fault passes through. -/
def attempt (m : ThreadAct σ α) : ThreadAct σ (Except HostError α) :=
  fun t o =>
    match m t o with
    | (.ok a, o) => (.ok (.ok a), o)
    | (.error (.host e), o) => (.ok (.error e), o)
    | (.error (.fault f), o) => (.error (.fault f), o)

/-- Does some work and gives every failure as a result. -/
def outcome (m : ThreadAct σ α) : ThreadAct σ (Except Failure α) :=
  fun t o =>
    let r := m t o
    (.ok r.1, r.2)

/-- Does some work on a part of the world. -/
def focus (view : τ → σ) (update : σ → τ → τ) (m : ThreadAct σ α) : ThreadAct τ α :=
  fun t o =>
    let r := m t ⟨o.repos, ⟨view o.desk.world, o.desk.log⟩⟩
    (r.1, ⟨r.2.repos, ⟨update r.2.desk.world o.desk.world, r.2.desk.log⟩⟩)

/-- Does some work and then other work, however the first ended. It ends as the first did, unless the second fails. -/
def ensure (m : ThreadAct σ α) (after : ThreadAct σ Unit) : ThreadAct σ α :=
  fun t o =>
    let r := m t o
    match after t r.2 with
    | (.ok (), o) => (r.1, o)
    | (.error e, o) => (.error e, o)

/-! ## Contexts -/

/-- The repository that the thread works for. -/
def current : ThreadAct σ (Option String) :=
  fun t o => (.ok (o.repos t), o)

/-- Begins to work for a repository, and gives what the thread worked for before. -/
def enter (repo : String) : ThreadAct σ (Option String) :=
  fun t o => (.ok (o.repos t), o.assign t (some repo))

/-- Goes back to what the thread worked for before. -/
def leave (outer : Option String) : ThreadAct σ Unit :=
  fun t o => (.ok (), o.assign t outer)

/-- Does some work for a repository. -/
def forRepo (repo : String) (m : ThreadAct σ α) : ThreadAct σ α := do
  let outer ← enter repo
  m.ensure (leave outer)

/-- The work as another thread shall do it: for the repository of the thread that hands it over, if it works for one. -/
def carry (m : ThreadAct σ α) : ThreadAct σ (ThreadAct σ α) := do
  match ← current with
  | none => return m
  | some repo => return forRepo repo m

/-- Has a thread of the pool do some work as it is. -/
def inPool (number : Nat) (m : ThreadAct σ α) : ThreadAct σ α :=
  fun _ o => m (.pool number) o

/-- Hands some work over to a thread of the pool. -/
def submit (number : Nat) (m : ThreadAct σ α) : ThreadAct σ α := do
  inPool number (← carry m)

end ThreadAct

end RunSteward
