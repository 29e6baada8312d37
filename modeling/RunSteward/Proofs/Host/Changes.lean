import RunSteward.Proofs.Governance.Lockstep

/-!
# Changes that a host is asked for

To say which changes work asks its host for, the host notes them: beside the world it keeps the requests that change
something, in order (`Host.noted`). Noting changes nothing else (`aside_alike`, `noting_alike`), and reading notes
nothing (`gather_noted`).
-/

namespace RunSteward

open Act

variable {σ α : Type}

/-- A change that a host is asked for. -/
inductive HostChange where
  | removeComment (id : Int)
  | createCheckRun (draft : CheckRunDraft)
  | createStatus (draft : StatusDraft)
  | cancelRun (run : WorkflowRun)
  | removeRun (run : WorkflowRun)
  | updateBranch (pr : PullRequest)
  | merge (pr : PullRequest) (draft : MergeDraft)
  | addLabel (pr : PullRequest) (label : String)
  | removeLabel (pr : PullRequest) (label : String)
  | addComment (pr : PullRequest) (body : String)
  | close (number : Int)
deriving DecidableEq

/-- A world with the changes that were asked for, in order. -/
structure Noted (σ : Type) where
  world : σ
  changes : List HostChange := []

namespace Act

/-- Does an act in a world beside which changes are noted. -/
def aside (x : Act σ α) : Act (Noted σ) α :=
  focus Noted.world (fun w n => { n with world := w }) x

/-- Notes a change and asks for it. -/
def noting (c : HostChange) (x : Act σ α) : Act (Noted σ) α := do
  outside fun n => ((), { n with changes := n.changes ++ [c] })
  aside x

end Act

/-- A host that notes the changes it is asked for. -/
def Host.noted (h : Host σ) : Host (Noted σ) where
  page l cursor := (h.page l cursor).aside
  pullRequest n := (h.pullRequest n).aside
  commit ref := (h.commit ref).aside
  checkRuns q := (h.checkRuns q).aside
  combinedStatus sha := (h.combinedStatus sha).aside
  runsPage n size := (h.runsPage n size).aside
  fileText path ref := (h.fileText path ref).aside
  removeComment id := noting (.removeComment id) (h.removeComment id)
  createCheckRun draft := noting (.createCheckRun draft) (h.createCheckRun draft)
  createStatus draft := noting (.createStatus draft) (h.createStatus draft)
  cancelRun run := noting (.cancelRun run) (h.cancelRun run)
  removeRun run := noting (.removeRun run) (h.removeRun run)
  updateBranch pr := noting (.updateBranch pr) (h.updateBranch pr)
  merge pr draft := noting (.merge pr draft) (h.merge pr draft)
  addLabel pr label := noting (.addLabel pr label) (h.addLabel pr label)
  removeLabel pr label := noting (.removeLabel pr label) (h.removeLabel pr label)
  addComment pr body := noting (.addComment pr body) (h.addComment pr body)
  close n := noting (.close n) (h.close n)
  pageLimit := h.pageLimit

/-! ## Noting changes nothing -/

/-- A desk beside one at which changes are noted. -/
def Desk.Beside (d : Desk σ) (e : Desk (Noted σ)) : Prop :=
  d = ⟨e.world.world, e.log⟩

/-- A desk at which changes are noted from now on. -/
def Desk.noted (d : Desk σ) : Desk (Noted σ) :=
  ⟨⟨d.world, []⟩, d.log⟩

namespace Act

theorem aside_alike (x : Act σ α) : Alike Desk.Beside x x.aside := by
  refine alike_of_same ?_
  rintro s d e rfl
  exact ⟨rfl, rfl⟩

theorem noting_alike (c : HostChange) (x : Act σ α) : Alike Desk.Beside x (noting c x) := by
  refine alike_of_same ?_
  rintro s d e rfl
  exact ⟨rfl, rfl⟩

theorem record_beside (level : LogLevel) (logger message : String) :
    Alike (Desk.Beside : Desk σ → Desk (Noted σ) → Prop) (record level logger message)
      (record level logger message) := by
  refine alike_of_same ?_
  rintro s d e rfl
  exact ⟨rfl, rfl⟩

theorem aside_keeps (changes : List HostChange) (x : Act σ α) :
    Keeps (fun w => w.changes = changes) (fun _ => True) x.aside :=
  fun _ _ hd => ⟨hd, fun _ _ => trivial⟩

theorem noting_changes (c : HostChange) (x : Act σ α) (s : Scope) (e : Desk (Noted σ)) :
    (noting c x s e).2.world.changes = e.world.changes ++ [c] := rfl

end Act

namespace Host

variable {host : Host σ} {l : Listing}

theorem gather_beside (host : Host σ) (l : Listing) : Alike Desk.Beside (host.gather l) (host.noted.gather l) :=
  gather_alike rfl fun cursor => aside_alike (host.page l cursor)

theorem collect_beside (host : Host σ) (l : Listing) : Alike Desk.Beside (host.collect l) (host.noted.collect l) := by
  refine Alike.bind (gather_beside host l) ?_
  rintro ⟨items, _ | e⟩
  · exact alike_pure _
  · exact alike_fail _

theorem gatherFrom_keeps {P : σ → Prop} (hpage : ∀ cursor, Keeps P (fun _ => True) (host.page l cursor)) (limit : Nat)
    (cursor : Option Cursor) : Keeps P (fun _ => True) (host.gatherFrom l limit cursor) := by
  induction limit generalizing cursor with
  | zero => exact keeps_fail trivial
  | succ limit ih =>
    refine Keeps.bind (hpage cursor).attempt fun answer => ?_
    rcases answer with e | ⟨items, _ | next⟩
    · exact keeps_pure _
    · exact keeps_pure _
    · exact Keeps.bind (ih (some next)) fun rest => keeps_pure _

/-- Nobody asks for a change by reading a listing. -/
theorem gather_noted (host : Host σ) (l : Listing) (changes : List HostChange) :
    Keeps (fun w => w.changes = changes) (fun _ => True) (host.noted.gather l) :=
  gatherFrom_keeps (fun _ => aside_keeps changes _) _ _

end Host

end RunSteward
