import RunSteward.Log.RepoContext
import RunSteward.Log.Setup
import RunSteward.Proofs.Act.Logging

/-!
# Acts carried out by threads

An act is done in a scope, which is given to it. In an office there is no such thing: a thread knows the repository
that it works for from what it keeps, and it alone has to see to it that this is right. That some work of threads is
the work that an act stands for is said step by step (`Carries`): entering and leaving a repository for `forRepo`, a
task for the pool for `inWorker`, and everything else as it is.

Such work does what the act does (`Carries.faithful`). The act and the work end alike, the world and the records are the
same, the tags of the records included, and every thread keeps in the end what it kept in the beginning. Only which
thread of the pool did a task is up to the work.
-/

namespace RunSteward

open Act

variable {σ τ α β : Type}

/-- Work of threads that carries out an act, step by step. -/
inductive Carries : {σ α : Type} → ThreadAct σ α → Act σ α → Prop where
  | pure {σ α : Type} (a : α) : Carries (pure a : ThreadAct σ α) (pure a)
  | fail {σ α : Type} (e : Failure) : Carries (.fail e : ThreadAct σ α) (Act.fail e)
  | outside {σ α : Type} (f : σ → α × σ) : Carries (.outside f) (Act.outside f)
  | record {σ : Type} (level : LogLevel) (logger message : String) :
      Carries (.record level logger message : ThreadAct σ Unit) (Act.record level logger message)
  | bind {σ α β : Type} {m : ThreadAct σ α} {x : Act σ α} {k : α → ThreadAct σ β} {f : α → Act σ β}
      (first : Carries m x) (rest : ∀ a, Carries (k a) (f a)) : Carries (m >>= k) (x >>= f)
  | attempt {σ α : Type} {m : ThreadAct σ α} {x : Act σ α} (h : Carries m x) : Carries m.attempt (Act.attempt x)
  | outcome {σ α : Type} {m : ThreadAct σ α} {x : Act σ α} (h : Carries m x) : Carries m.outcome (Act.outcome x)
  | focus {σ τ α : Type} {m : ThreadAct σ α} {x : Act σ α} (view : τ → σ) (update : σ → τ → τ) (h : Carries m x) :
      Carries (m.focus view update) (Act.focus view update x)
  | forRepo {σ α : Type} {m : ThreadAct σ α} {x : Act σ α} (repo : String) (h : Carries m x) :
      Carries (m.forRepo repo) (Act.forRepo repo x)
  | inWorker {σ α : Type} {m : ThreadAct σ α} {x : Act σ α} (number named : Nat) (h : Carries m x) :
      Carries (m.submit number) (Act.inWorker named x)

/-! ## Offices -/

namespace Office

variable {o : Office σ} {t : WorkThread}

/-- What a thread keeps beside its own repository does not matter, unless it works for none: then the threads of the
pool must work for none either, as they take nothing along from it. -/
def Ready (o : Office σ) (t : WorkThread) : Prop :=
  o.repos t = none → ∀ number, o.repos (.pool number) = none

theorem ready_opened (callers : String → Option String) (desk : Desk σ) (t : WorkThread) :
    (opened callers desk).Ready t := by
  intro _ number
  rfl

theorem ready_of_some {repo : String} (h : o.repos t = some repo) : o.Ready t := by
  intro hnone
  rw [h] at hnone
  cases hnone

@[simp] theorem assign_repos_self (repo : Option String) : (o.assign t repo).repos t = repo :=
  if_pos rfl

theorem assign_back {p : Office σ} {repo : Option String} (h : p.repos = (o.assign t repo).repos) :
    (p.assign t (o.repos t)).repos = o.repos := by
  funext u
  by_cases hu : u = t
  · subst hu
    exact if_pos rfl
  · show (if u = t then o.repos t else p.repos u) = o.repos u
    rw [if_neg hu, h]
    exact if_neg hu

end Office

/-! ## How work goes on -/

namespace ThreadAct

variable {m : ThreadAct σ α} {t : WorkThread} {o o' : Office σ}

theorem bind_of_ok (k : α → ThreadAct σ β) {a : α} (h : m t o = (.ok a, o')) : (m >>= k) t o = k a t o' := by
  change ThreadAct.bind m k t o = _
  unfold ThreadAct.bind
  rw [h]

theorem bind_of_error (k : α → ThreadAct σ β) {e : Failure} (h : m t o = (.error e, o')) :
    (m >>= k) t o = (.error e, o') := by
  change ThreadAct.bind m k t o = _
  unfold ThreadAct.bind
  rw [h]

theorem forRepo_apply (repo : String) : m.forRepo repo t o =
    ((m t (o.assign t (some repo))).1, (m t (o.assign t (some repo))).2.assign t (o.repos t)) := rfl

theorem submit_of_none {number : Nat} (h : o.repos t = none) : m.submit number t o = m (.pool number) o := by
  have hcarry : m.carry t o = (.ok m, o) := by
    rw [carry, bind_of_ok _ (rfl : current t o = (.ok (o.repos t), o)), h]
    rfl
  rw [submit, bind_of_ok _ hcarry]
  rfl

theorem submit_of_some {number : Nat} {repo : String} (h : o.repos t = some repo) :
    m.submit number t o = m.forRepo repo (.pool number) o := by
  have hcarry : m.carry t o = (.ok (m.forRepo repo), o) := by
    rw [carry, bind_of_ok _ (rfl : current t o = (.ok (o.repos t), o)), h]
    rfl
  rw [submit, bind_of_ok _ hcarry]
  rfl

end ThreadAct

/-! ## Faithful work -/

namespace LogRecord

/-- What a record says, whoever logged it. -/
def content (r : LogRecord) : LogLevel × String × Option String × String :=
  (r.level, r.logger, r.scope.repo, r.message)

/-- A record that was logged by a thread or by one of the pool. -/
def IsBy (t : WorkThread) (r : LogRecord) : Prop :=
  r.scope.thread = t.name ∨ ∃ number, r.scope.thread = (WorkThread.pool number).name

/-- A record whose line tells that it was logged for a repository, by a thread or by one of the pool. -/
structure IsTagged (repo : String) (t : WorkThread) (r : LogRecord) : Prop where
  thread : r.IsBy t
  line : r.line =
    r.level.name ++ " " ++ r.logger ++ " [" ++ r.scope.thread ++ "] [" ++ repo ++ "] " ++ r.message

theorem line_of_repo {repo : String} {r : LogRecord} (h : r.scope.repo = some repo) (hne : repo ≠ "") :
    r.line = r.level.name ++ " " ++ r.logger ++ " [" ++ r.scope.thread ++ "] [" ++ repo ++ "] " ++ r.message := by
  have htag : repoTag r.scope.repo = repo := by
    rw [h]
    exact if_neg (by simpa using hne)
  rw [line, htag]

theorem IsBy.of_pool {t : WorkThread} {number : Nat} {r : LogRecord} (h : r.IsBy (.pool number)) : r.IsBy t := by
  rcases h with hself | hpool
  · exact .inr ⟨number, hself⟩
  · exact .inr hpool

end LogRecord

/-- How work that a thread began in an office ended just as an act that began at a desk. -/
structure Faithful (t : WorkThread) (o : Office σ) (d : Desk σ) (p : Except Failure α × Office σ)
    (q : Except Failure α × Desk σ) : Prop where
  ended : p.1 = q.1
  repos : p.2.repos = o.repos
  world : p.2.desk.world = q.2.world
  logged : ∃ records told, p.2.desk.log.toList = o.desk.log.toList ++ records ∧
    q.2.log.toList = d.log.toList ++ told ∧ records.map LogRecord.content = told.map LogRecord.content ∧
    ∀ r ∈ records, r.IsBy t

namespace Faithful

variable {t : WorkThread} {o o' : Office σ} {d d' : Desk σ}

theorem silent {a : Except Failure α} {w : σ} :
    Faithful t o d (a, { o with desk := { o.desk with world := w } }) (a, { d with world := w }) where
  ended := rfl
  repos := rfl
  world := rfl
  logged := ⟨[], [], (List.append_nil _).symm, (List.append_nil _).symm, rfl, by simp⟩

theorem still {a : Except Failure α} (h : o.desk.world = d.world) : Faithful t o d (a, o) (a, d) where
  ended := rfl
  repos := rfl
  world := h
  logged := ⟨[], [], (List.append_nil _).symm, (List.append_nil _).symm, rfl, by simp⟩

theorem trans {a : Except Failure α} {p : Except Failure β × Office σ} {q : Except Failure β × Desk σ}
    (first : Faithful t o d (a, o') (a, d')) (rest : Faithful t o' d' p q) : Faithful t o d p q where
  ended := rest.ended
  repos := rest.repos.trans first.repos
  world := rest.world
  logged := by
    obtain ⟨before, told, hbefore, htold, hsame, hby⟩ := first.logged
    obtain ⟨after, told', hafter, htold', hsame', hby'⟩ := rest.logged
    refine ⟨before ++ after, told ++ told', ?_, ?_, ?_, ?_⟩
    · rw [hafter, hbefore, List.append_assoc]
    · rw [htold', htold, List.append_assoc]
    · rw [List.map_append, List.map_append, hsame, hsame']
    · intro r hr
      rcases List.mem_append.mp hr with hr | hr
      · exact hby r hr
      · exact hby' r hr

theorem retell {a : Except Failure α} {b : Except Failure β} (h : Faithful t o d (a, o') (a, d')) :
    Faithful t o d (b, o') (b, d') where
  ended := rfl
  repos := h.repos
  world := h.world
  logged := h.logged

/-- What a thread of the pool did faithfully was done so for the thread that handed it over. -/
theorem of_pool {p : Except Failure α × Office σ} {q : Except Failure α × Desk σ} {number : Nat}
    (h : Faithful (.pool number) o d p q) : Faithful t o d p q where
  ended := h.ended
  repos := h.repos
  world := h.world
  logged := by
    obtain ⟨records, told, hlog, htold, hsame, hby⟩ := h.logged
    exact ⟨records, told, hlog, htold, hsame, fun r hr => (hby r hr).of_pool⟩

end Faithful

/-- Work of threads that is faithful to an act wherever the thread works for the repository of the scope. -/
def Serves (m : ThreadAct σ α) (x : Act σ α) : Prop :=
  ∀ t (o : Office σ) (s : Scope) d, o.Ready t → s.repo = o.repos t → o.desk.world = d.world →
    Faithful t o d (m t o) (x s d)

section Serves

variable {m : ThreadAct σ α} {x : Act σ α}

theorem serves_pure (a : α) : Serves (pure a : ThreadAct σ α) (pure a) := by
  intro t o s d _ _ hworld
  exact Faithful.still hworld

theorem serves_fail (e : Failure) : Serves (.fail e : ThreadAct σ α) (Act.fail e) := by
  intro t o s d _ _ hworld
  exact Faithful.still hworld

theorem serves_outside (f : σ → α × σ) : Serves (.outside f) (Act.outside f) := by
  intro t o s d _ _ hworld
  show Faithful t o d (.ok (f o.desk.world).1, _) (.ok (f d.world).1, _)
  rw [hworld]
  exact Faithful.silent

/-- A record is tagged with what the thread keeps, which is the repository of the scope. -/
theorem serves_record (level : LogLevel) (logger message : String) :
    Serves (.record level logger message : ThreadAct σ Unit) (Act.record level logger message) := by
  intro t o s d _ hrepo hworld
  refine ⟨rfl, rfl, hworld, [⟨level, logger, o.scopeOf t, message⟩], [⟨level, logger, s, message⟩],
    Array.toList_push, Array.toList_push, ?_, ?_⟩
  · show [(level, logger, o.repos t, message)] = [(level, logger, s.repo, message)]
    rw [hrepo]
  · intro r hr
    rw [List.mem_singleton.mp hr]
    exact .inl rfl

/-- What the first work leaves is ready for the rest, as every thread keeps what it kept before. -/
theorem Serves.bind {k : α → ThreadAct σ β} {f : α → Act σ β} (hm : Serves m x) (hk : ∀ a, Serves (k a) (f a)) :
    Serves (m >>= k) (x >>= f) := by
  intro t o s d hready hrepo hworld
  have first : Faithful t o d (m t o) (x s d) := hm t o s d hready hrepo hworld
  rcases hact : x s d with ⟨ended, d'⟩
  rcases hwork : m t o with ⟨ended', o'⟩
  rw [hact, hwork] at first
  obtain rfl : ended' = ended := first.ended
  have hrepos : o'.repos = o.repos := first.repos
  cases ended' with
  | error e =>
    rw [bind_of_error f hact, ThreadAct.bind_of_error k hwork]
    exact first.retell
  | ok a =>
    rw [bind_of_ok f hact, ThreadAct.bind_of_ok k hwork]
    have hready' : o'.Ready t := by
      unfold Office.Ready
      rw [hrepos]
      exact hready
    exact first.trans (hk a t o' s d' hready' (by rw [hrepos, hrepo]) first.world)

theorem Serves.attempt (h : Serves m x) : Serves m.attempt (Act.attempt x) := by
  intro t o s d hready hrepo hworld
  have hend : Faithful t o d (m t o) (x s d) := h t o s d hready hrepo hworld
  unfold ThreadAct.attempt Act.attempt
  rcases hact : x s d with ⟨ended, d'⟩
  rcases hwork : m t o with ⟨ended', o'⟩
  rw [hact, hwork] at hend
  obtain rfl : ended' = ended := hend.ended
  rcases ended' with (e | f) | a
  · exact hend.retell
  · exact hend.retell
  · exact hend.retell

theorem Serves.outcome (h : Serves m x) : Serves m.outcome (Act.outcome x) := by
  intro t o s d hready hrepo hworld
  have hend : Faithful t o d (m t o) (x s d) := h t o s d hready hrepo hworld
  exact ⟨congrArg Except.ok hend.ended, hend.repos, hend.world, hend.logged⟩

theorem Serves.focus (view : τ → σ) (update : σ → τ → τ) (h : Serves m x) :
    Serves (m.focus view update) (Act.focus view update x) := by
  intro t o s d hready hrepo hworld
  have hend := h t ⟨o.repos, ⟨view o.desk.world, o.desk.log⟩⟩ s ⟨view d.world, d.log⟩ hready hrepo
    (congrArg view hworld)
  refine ⟨hend.ended, hend.repos, ?_, hend.logged⟩
  show update (m t _).2.desk.world o.desk.world = update (x s _).2.world d.world
  rw [hend.world, hworld]

/-- Work for a repository is faithful whatever the thread worked for before, and goes back to that. -/
theorem Serves.forRepo_faithful (h : Serves m x) (repo : String) (t : WorkThread) (o : Office σ) (s : Scope) {d : Desk σ}
    (hworld : o.desk.world = d.world) : Faithful t o d (m.forRepo repo t o) (Act.forRepo repo x s d) := by
  have hinner : (o.assign t (some repo)).repos t = some repo := Office.assign_repos_self _
  have hend := h t (o.assign t (some repo)) { s with repo := some repo } d (Office.ready_of_some hinner) hinner.symm
    hworld
  rw [ThreadAct.forRepo_apply]
  exact ⟨hend.ended, Office.assign_back hend.repos, hend.world, hend.logged⟩

/-- A task takes the repository along to the pool, or is done by a thread that works for none as the caller does. -/
theorem Serves.submit (number named : Nat) (h : Serves m x) : Serves (m.submit number) (Act.inWorker named x) := by
  intro t o s d hready hrepo hworld
  suffices hpool : Faithful (.pool number) o d (m.submit number t o) (Act.inWorker named x s d) from hpool.of_pool
  cases hkept : o.repos t with
  | none =>
    have hfresh : ∀ other, o.repos (.pool other) = none := hready hkept
    rw [ThreadAct.submit_of_none hkept]
    refine h (.pool number) o (s.worker named) d (fun _ => hfresh) ?_ hworld
    rw [hfresh number, ← hkept]
    exact hrepo
  | some repo =>
    have hsame : Act.inWorker named x s d = Act.forRepo repo x (s.worker named) d := by
      show x (s.worker named) d = x { s.worker named with repo := some repo } d
      rw [← hkept, ← hrepo]
      rfl
    rw [ThreadAct.submit_of_some hkept, hsame]
    exact h.forRepo_faithful repo (.pool number) o (s.worker named) hworld

end Serves

/-- Work that carries out an act step by step is faithful to it, by induction on the steps. -/
theorem Carries.serves {m : ThreadAct σ α} {x : Act σ α} (h : Carries m x) : Serves m x := by
  induction h with
  | pure a => exact serves_pure a
  | fail e => exact serves_fail e
  | outside f => exact serves_outside f
  | record level logger message => exact serves_record level logger message
  | bind _ _ first rest => exact first.bind rest
  | attempt _ ih => exact ih.attempt
  | outcome _ ih => exact ih.outcome
  | focus view update _ ih => exact ih.focus view update
  | forRepo repo _ ih =>
    intro t o s d _ _ hworld
    exact ih.forRepo_faithful repo t o s hworld
  | inWorker number named _ ih => exact ih.submit number named

/-! ## Acts of one context -/

namespace Act

/-- An act that keeps to the repository that it is done for: threads can carry it out, and all that it logs is tagged
with that repository. -/
structure Loyal (x : Act σ α) : Prop where
  carried : ∃ m, Carries m x
  logs : ∀ s, Logs s (fun r => r.scope.repo = s.repo) x

theorem loyal_pure (a : α) : Loyal (pure a : Act σ α) where
  carried := ⟨_, .pure a⟩
  logs _ := logs_pure a

theorem loyal_fail (e : Failure) : Loyal (fail e : Act σ α) where
  carried := ⟨_, .fail e⟩
  logs _ := logs_fail e

theorem loyal_outside (f : σ → α × σ) : Loyal (outside f) where
  carried := ⟨_, .outside f⟩
  logs _ := logs_outside f

theorem loyal_record (level : LogLevel) (logger message : String) :
    Loyal (record level logger message : Act σ Unit) where
  carried := ⟨_, .record level logger message⟩
  logs _ := logs_record rfl

theorem loyal_orHalt (r : Except Fault α) : Loyal (orHalt r : Act σ α) := by
  cases r with
  | error f => exact loyal_fail _
  | ok a => exact loyal_pure a

theorem loyal_orRefuse (r : Except HostError α) : Loyal (orRefuse r : Act σ α) := by
  cases r with
  | error e => exact loyal_fail _
  | ok a => exact loyal_pure a

theorem loyal_conclude (r : Except Failure α) : Loyal (conclude r : Act σ α) := by
  cases r with
  | error e => exact loyal_fail e
  | ok a => exact loyal_pure a

variable {x : Act σ α}

theorem Loyal.bind {f : α → Act σ β} (hx : Loyal x) (hf : ∀ a, Loyal (f a)) : Loyal (x >>= f) where
  carried := by
    obtain ⟨m, hm⟩ := hx.carried
    obtain ⟨k, hk⟩ := Classical.skolem.mp fun a => (hf a).carried
    exact ⟨m >>= k, .bind hm hk⟩
  logs s := (hx.logs s).bind fun a => (hf a).logs s

theorem Loyal.noted (h : Loyal x) {level : LogLevel} {logger message : String} :
    Loyal (record level logger message >>= fun _ => x) :=
  (loyal_record level logger message).bind fun _ => h

theorem Loyal.attempt (h : Loyal x) : Loyal (attempt x) where
  carried := by
    obtain ⟨m, hm⟩ := h.carried
    exact ⟨m.attempt, .attempt hm⟩
  logs s := (h.logs s).attempt

theorem Loyal.outcome (h : Loyal x) : Loyal (outcome x) where
  carried := by
    obtain ⟨m, hm⟩ := h.carried
    exact ⟨m.outcome, .outcome hm⟩
  logs s := (h.logs s).outcome

theorem Loyal.focus (view : τ → σ) (update : σ → τ → τ) (h : Loyal x) : Loyal (focus view update x) where
  carried := by
    obtain ⟨m, hm⟩ := h.carried
    exact ⟨m.focus view update, .focus view update hm⟩
  logs s := (h.logs s).focus view update

/-- A task for the pool is tagged as the thread that hands it over is, for it takes the repository along. -/
theorem Loyal.inWorker (number : Nat) (h : Loyal x) : Loyal (inWorker number x) where
  carried := by
    obtain ⟨m, hm⟩ := h.carried
    exact ⟨m.submit number, .inWorker number number hm⟩
  logs s := h.logs (s.worker number)

theorem loyal_forM {f : α → Act σ Unit} (hf : ∀ a, Loyal (f a)) (xs : List α) : Loyal (xs.forM f) := by
  induction xs with
  | nil => exact loyal_pure ()
  | cons a xs ih => exact (hf a).bind fun _ => ih

theorem loyal_foldlM {f : β → α → Act σ β} (hf : ∀ b a, Loyal (f b a)) (xs : List α) (b : β) :
    Loyal (xs.foldlM f b) := by
  induction xs generalizing b with
  | nil => exact loyal_pure b
  | cons a xs ih =>
    rw [List.foldlM_cons]
    exact (hf b a).bind ih

end Act

/-- How a thread of an office carried out an act that is done for a repository: it was faithful to the act, so every
thread keeps what it kept before, and of what was logged each line that a setup of the log lets through is tagged with
the repository. -/
structure CarriedOut (repo : String) (x : Act σ α) (m : ThreadAct σ α) (t : WorkThread) (o : Office σ) : Prop
    extends Faithful t o o.desk (m t o) (x (o.scopeOf t) o.desk) where
  tagged : ∀ records, (m t o).2.desk.log.toList = o.desk.log.toList ++ records →
    ∀ (setup : LogSetup), ∀ r ∈ setup.written records, r.IsTagged repo t

/-- Loyal work for a repository is tagged with it, whatever the thread worked for before. -/
theorem Act.Loyal.carriedOut {x : Act σ α} (h : Loyal x) {repo : String} (hne : repo ≠ "") {m : ThreadAct σ α}
    (hm : Carries m (forRepo repo x)) {t : WorkThread} {o : Office σ} (hready : o.Ready t) :
    CarriedOut repo (forRepo repo x) m t o := by
  have hfaithful := hm.serves t o (o.scopeOf t) o.desk hready rfl rfl
  refine ⟨hfaithful, fun records hlog setup r hr => ?_⟩
  obtain ⟨records', told, hlog', htold, hsame, hby⟩ := hfaithful.logged
  obtain rfl : records = records' := List.append_cancel_left (hlog.symm.trans hlog')
  obtain ⟨told', htold', htag⟩ := h.logs { o.scopeOf t with repo := some repo } o.desk
  obtain rfl : told = told' := List.append_cancel_left (htold.symm.trans htold')
  have hmem : r ∈ records := (List.mem_filter.mp hr).1
  have hcontent : r.content ∈ told.map LogRecord.content := by
    rw [← hsame]
    exact List.mem_map_of_mem hmem
  -- the act logged a record of the same content, and that one is tagged as the act was done for the repository
  obtain ⟨r', hr', heq⟩ := List.mem_map.mp hcontent
  have hrepo : r'.scope.repo = r.scope.repo := congrArg (fun content => content.2.2.1) heq
  have htagged : r.scope.repo = some repo := hrepo.symm.trans (htag r' hr')
  exact ⟨hby r hmem, LogRecord.line_of_repo htagged hne⟩

/-- Work for a repository is handed over to the pool along with the repository. -/
example : ((ThreadAct.forRepo "o/r" (.submit 0 .current) : ThreadAct Unit (Option String)) (.caller "main")
    (.opened (fun _ => some "x/y") ⟨(), #[]⟩)).1 = .ok (some "o/r") := rfl

end RunSteward
