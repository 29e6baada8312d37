import RunSteward.Proofs.Governance.PoolLockstep

/-!
# Watched passes

To say what a pass asks of its host, the host is watched: beside the world it keeps what was read of it and
which requests it was sent, each with its answer, in order (`Host.watched`). The lookups and the calls of
a pass (`Governor.lookups`, `Governor.calls`) are those that its watched host has kept in the end. Watching
changes nothing: a watched pass ends as the pass itself does and leaves the same world and the same log
(`runPass_watched`).
-/

namespace RunSteward

variable {σ α : Type}

/-- Something that was read of a host, with the answer. -/
inductive Lookup where
  | page (listing : Listing) (cursor : Option Cursor) (answer : Except Failure (Page listing.Item))
  | runsPage (number size : Int) (answer : Except Failure (List WorkflowRun))
  | clock (answer : Except Failure Stamp)

/-- A request to cancel or remove a run, with the answer. -/
structure Call where
  kind : ActionKind
  run : WorkflowRun
  answer : Except Failure Unit

/-- A world together with what was read of it and which requests were sent to it. -/
structure Watched (σ : Type) where
  world : σ
  lookups : List Lookup := []
  calls : List Call := []

namespace Watched

/-- What is kept after something was read. -/
def lookedUp (w : Watched σ) (r : Lookup) : Watched σ :=
  { w with lookups := w.lookups ++ [r] }

/-- What is kept after a request. -/
def called (w : Watched σ) (c : Call) : Watched σ :=
  { w with calls := w.calls ++ [c] }

end Watched

namespace Desk

/-- A desk whose world is watched from now on. -/
def watched (d : Desk σ) : Desk (Watched σ) :=
  ⟨{ world := d.world }, d.log⟩

/-- A watched desk without what was kept by watching it. -/
def bare (d : Desk (Watched σ)) : Desk σ :=
  ⟨d.world.world, d.log⟩

end Desk

/-- Does an act in a watched world, and keeps a note of its answer. -/
def Act.watched (note : Except Failure α → Watched σ → Watched σ) (x : Act σ α) :
    Act (Watched σ) α :=
  fun s d =>
    let r := x s d.bare
    (r.1, ⟨note r.1 { d.world with world := r.2.world }, r.2.log⟩)

/-- A host of which the pages read, the pages of runs and the requests for runs are kept. -/
def Host.watched (h : Host σ) : Host (Watched σ) where
  page l c := (h.page l c).watched fun answer w => w.lookedUp (.page l c answer)
  pullRequest n := (h.pullRequest n).watched fun _ w => w
  commit sha := (h.commit sha).watched fun _ w => w
  checkRuns q := (h.checkRuns q).watched fun _ w => w
  combinedStatus sha := (h.combinedStatus sha).watched fun _ w => w
  runsPage n k := (h.runsPage n k).watched fun answer w => w.lookedUp (.runsPage n k answer)
  fileText path ref := (h.fileText path ref).watched fun _ w => w
  removeComment id := (h.removeComment id).watched fun _ w => w
  createCheckRun c := (h.createCheckRun c).watched fun _ w => w
  createStatus c := (h.createStatus c).watched fun _ w => w
  cancelRun r := (h.cancelRun r).watched fun answer w => w.called ⟨.cancel, r, answer⟩
  removeRun r := (h.removeRun r).watched fun answer w => w.called ⟨.remove, r, answer⟩
  updateBranch pr := (h.updateBranch pr).watched fun _ w => w
  merge pr m := (h.merge pr m).watched fun _ w => w
  addLabel pr label := (h.addLabel pr label).watched fun _ w => w
  removeLabel pr label := (h.removeLabel pr label).watched fun _ w => w
  addComment pr body := (h.addComment pr body).watched fun _ w => w
  close n := (h.close n).watched fun _ w => w
  pageLimit := h.pageLimit

namespace Governor

def watched (g : Governor σ) : Governor (Watched σ) where
  host := g.host.watched
  settings := g.settings
  clock := g.clock.watched fun answer w => w.lookedUp (.clock answer)
  rehearsal := g.rehearsal
  workers := g.workers

/-- What a pass reads, in order. -/
def lookups (g : Governor σ) (branches : List Branch) (s : Scope) (d : Desk σ) : List Lookup :=
  (g.watched.runPass branches s d.watched).2.world.lookups

/-- The requests that a pass sends to change runs, in order. -/
def calls (g : Governor σ) (branches : List Branch) (s : Scope) (d : Desk σ) : List Call :=
  (g.watched.runPass branches s d.watched).2.world.calls

/-- What a pass reads in which the workers take some turns, in order. -/
def lookupsBy (g : Governor σ) (turns : List Nat) (branches : List Branch) (s : Scope) (d : Desk σ) : List Lookup :=
  (g.watched.runPassBy turns branches s d.watched).2.world.lookups

/-- The requests that a pass sends to change runs in which the workers take some turns, in order. -/
def callsBy (g : Governor σ) (turns : List Nat) (branches : List Branch) (s : Scope) (d : Desk σ) : List Call :=
  (g.watched.runPassBy turns branches s d.watched).2.world.calls

end Governor

/-! ## Watching changes nothing -/

/-- A desk is a watched desk without what was kept by watching it. -/
def Desk.IsBare (d : Desk (Watched σ)) (e : Desk σ) : Prop :=
  e = d.bare

theorem Act.watched_alike (note : Except Failure α → Watched σ → Watched σ)
    (hnote : ∀ a w, (note a w).world = w.world) (x : Act σ α) :
    Act.Alike Desk.IsBare (x.watched note) x := by
  rintro s d e rfl
  have hwatched : x.watched note s d = ((x s d.bare).1, (x.watched note s d).2) := rfl
  have hbare : (x s d.bare).2 = (x.watched note s d).2.bare := by
    simp [Act.watched, Desk.bare, hnote]
  rw [hwatched]
  rcases hres : x s d.bare with ⟨f | a, e'⟩
  · rw [hres] at hbare
    exact .failure f hbare
  · rw [hres] at hbare
    exact .result ⟨rfl, hbare⟩

theorem Act.record_alike (level : LogLevel) (logger message : String) :
    Act.Alike (Desk.IsBare : Desk (Watched σ) → Desk σ → Prop) (Act.record level logger message)
      (Act.record level logger message) := by
  rintro s d e rfl
  exact .result ⟨rfl, rfl⟩

namespace Governor

theorem request_watched (g : Governor σ) (kind : ActionKind) (r : WorkflowRun) :
    g.watched.request kind r =
      (g.request kind r).watched fun answer w => w.called ⟨kind, r, answer⟩ := by
  cases kind <;> rfl

theorem mutate_watched (g : Governor σ) (kind : ActionKind) (policy : Policy) (r : WorkflowRun) :
    Act.Alike Desk.IsBare (g.watched.mutate kind policy r) (g.mutate kind policy r) := by
  unfold mutate
  rcases hrehearsal : g.rehearsal with _ | _
  · rw [if_neg (by simp [watched, hrehearsal]), if_neg (by simp)]
    refine Act.Alike.bind ?_ fun answer => ?_
    · rw [request_watched]
      refine Act.Alike.attempt (Act.watched_alike _ ?_ _)
      exact fun _ _ => rfl
    · split
      · exact Act.Alike.bind (Act.record_alike _ _ _) fun _ => Act.alike_pure _
      · exact Act.alike_pure _
  · rw [if_pos (by simp [watched, hrehearsal]), if_pos (by simp)]
    exact Act.alike_pure _

theorem enact_watched (g : Governor σ) (l : Ledger) (o : Order) :
    Act.Alike Desk.IsBare (g.watched.enact o.kind o.policy o.reason l o.run)
      (g.enact o.kind o.policy o.reason l o.run) := by
  unfold enact
  split
  · exact Act.alike_pure _
  · exact Act.Alike.bind (g.mutate_watched _ _ _) fun outcome => Act.alike_pure _

theorem tell_alike (action : Option Action) :
    Act.Alike (Desk.IsBare : Desk (Watched σ) → Desk σ → Prop) (tell action) (tell action) := by
  cases action with
  | none => exact Act.alike_pure ()
  | some a => exact Act.record_alike _ _ _

theorem watched_lockstep (g : Governor σ) :
    Lockstep g.watched g fun l l' d e => l = l' ∧ d.IsBare e where
  settings := rfl
  workers := rfl
  pageLimit := rfl
  page _ _ listing cursor := Act.Alike.given
    (Act.watched_alike (fun answer w => w.lookedUp (.page listing cursor answer)) (fun _ _ => rfl) _)
  runsPage _ _ n := Act.Alike.given
    (Act.watched_alike (fun answer w => w.lookedUp (.runsPage n 100 answer)) (fun _ _ => rfl) _)
  clock _ _ := Act.Alike.given
    (Act.watched_alike (fun answer w => w.lookedUp (.clock answer)) (fun _ _ => rfl) _)
  record _ _ _ _ _ := Act.Alike.given (Act.record_alike _ _ _)
  enact l l' o := by
    rintro s d e ⟨rfl, hbare⟩
    refine (g.enact_watched l o s d e hbare).mono ?_ fun _ _ hfail => ⟨rfl, hfail⟩
    rintro p _ _ _ ⟨rfl, hbare⟩
    exact ⟨⟨rfl, hbare⟩, fun _ _ => (tell_alike p.2).given⟩

theorem runPass_alike (g : Governor σ) (branches : List Branch) :
    Act.Alike Desk.IsBare (g.watched.runPass branches) (g.runPass branches) :=
  g.watched_lockstep.workalike.runPass_alike rfl branches

/-- **Watching changes nothing**: a watched pass ends as the pass itself does, with the same world and the
same log. -/
theorem runPass_watched (g : Governor σ) (branches : List Branch) (s : Scope) (d : Desk σ) :
    (g.watched.runPass branches s d.watched).1 = (g.runPass branches s d).1 ∧
      (g.watched.runPass branches s d.watched).2.bare = (g.runPass branches s d).2 := by
  obtain ⟨hres, hdesk⟩ := (g.runPass_alike branches).same (s := s) (show d.watched.IsBare d from rfl)
  exact ⟨hres, hdesk.symm⟩

theorem runPassBy_watched (g : Governor σ) (turns : List Nat) (branches : List Branch) (s : Scope) (d : Desk σ) :
    (g.watched.runPassBy turns branches s d.watched).1 = (g.runPassBy turns branches s d).1 := by
  have halike : Act.Alike Desk.IsBare (g.watched.runPassBy turns branches) (g.runPassBy turns branches) :=
    g.watched_lockstep.workalike.passOf_alike rfl branches (g.watched_lockstep.runPoliciesBy_paired turns branches)
  exact (halike.same (s := s) (show d.watched.IsBare d from rfl)).1

end Governor

end RunSteward
