import Mathlib.Data.List.Nodup
import RunSteward.Governance.Pass
import RunSteward.Proofs.Act.Paired

/-!
# Stores of runs

A host that behaves keeps its workflow runs in a store: each run once, by its id. Listings show the runs
that a filter admits, a request to cancel an active run ends it, and a request to remove a run deletes it.
`Host.Stores` says this of any host and any way to look at its world as a store. `RunStore.host` is a host
whose world is the store itself; it may answer requests as a store does (`host_stores`), or in other ways.
-/

namespace RunSteward

/-! ## Stores -/

namespace WorkflowRun

def asCancelled (r : WorkflowRun) : WorkflowRun :=
  { r with status := "completed", conclusion := some "cancelled" }

@[simp] theorem asCancelled_id (r : WorkflowRun) : r.asCancelled.id = r.id := rfl

end WorkflowRun

/-- Tells whether a filter admits a run. A wanted status may be the status of the run or its conclusion. -/
def RunFilter.admits (f : RunFilter) (r : WorkflowRun) : Bool :=
  (f.branch.all fun b => r.headBranch == b) && (f.event.all fun e => r.event == e) &&
    f.status.all fun t => r.status == t || r.conclusion == some t

/-- The runs and the open pull requests of a repository. No two runs have the same id. -/
structure RunStore where
  runs : List WorkflowRun
  pulls : List PullRequest := []
  ids_nodup : (runs.map WorkflowRun.id).Nodup

namespace RunStore

variable (S : RunStore)

def listed (f : RunFilter) : List WorkflowRun :=
  S.runs.filter f.admits

/-- The runs on a page, of a hundred each; the first page has the number one. -/
def block (number : Int) : List WorkflowRun :=
  (S.runs.drop (100 * (number - 1)).toNat).take 100

def run? (i : Int) : Option WorkflowRun :=
  S.runs.find? fun r => r.id == i

def cancel (i : Int) : RunStore where
  runs := S.runs.map fun r => if r.id = i then r.asCancelled else r
  pulls := S.pulls
  ids_nodup := by
    have hids : (S.runs.map fun r => if r.id = i then r.asCancelled else r).map WorkflowRun.id
        = S.runs.map WorkflowRun.id := by
      rw [List.map_map]
      refine List.map_congr_left fun r _ => ?_
      by_cases h : r.id = i <;> simp [h]
    rw [hids]
    exact S.ids_nodup

def remove (i : Int) : RunStore where
  runs := S.runs.filter fun r => r.id != i
  pulls := S.pulls
  ids_nodup := S.ids_nodup.sublist (List.filter_sublist.map _)

variable {S} {r q : WorkflowRun}

theorem eq_of_id (hr : r ∈ S.runs) (hq : q ∈ S.runs) (h : r.id = q.id) : r = q :=
  List.inj_on_of_nodup_map S.ids_nodup hr hq h

theorem run?_of_mem (hr : r ∈ S.runs) : S.run? r.id = some r := by
  rcases hfind : S.run? r.id with _ | q
  · have hnone := List.find?_eq_none.mp hfind r hr
    simp at hnone
  · have hq : q ∈ S.runs := List.mem_of_find?_eq_some hfind
    have hid : q.id = r.id := by simpa using List.find?_some hfind
    rw [eq_of_id hq hr hid]

theorem nodup_runs (S : RunStore) : S.runs.Nodup :=
  S.ids_nodup.of_map _

end RunStore

/-! ## Hosts with a store -/

variable {σ : Type}

/-- An act that reads something off a store and leaves the store as it is. -/
def Act.Sees {α : Type} (store : σ → RunStore) (x : Act σ α) (what : RunStore → α) : Prop :=
  ∀ s d, ∃ d', x s d = (.ok (what (store d.world)), d') ∧ store d'.world = store d.world

theorem Act.Sees.gives {α : Type} {store : σ → RunStore} {x : Act σ α} {what : RunStore → α} {S : RunStore}
    (h : Act.Sees store x what) : Act.Gives store S x (what S) S := by
  rintro s d rfl
  exact h s d

/-- A host with a store. Nothing is said about requests for runs that are not in the store. -/
structure Host.Stores (host : Host σ) (store : σ → RunStore) : Prop where
  listed : ∀ f, Act.Sees store (host.collect (.runs f)) fun S => S.listed f
  pulls : Act.Sees store (host.collect .pullRequests) fun S => S.pulls
  block : ∀ number, 1 ≤ number → Act.Sees store (host.runsPage number 100) fun S => S.block number
  cancel_active : ∀ r s d x, x ∈ (store d.world).runs → x.id = r.id → x.isActive = true →
    ∃ d', host.cancelRun r s d = (.ok (), d') ∧ store d'.world = (store d.world).cancel r.id
  cancel_inactive : ∀ r s d x, x ∈ (store d.world).runs → x.id = r.id → x.isActive = false →
    ∃ e d', host.cancelRun r s d = (.error (.host e), d') ∧ e.kind = .conflict ∧
      store d'.world = store d.world
  remove : ∀ r s d x, x ∈ (store d.world).runs → x.id = r.id →
    ∃ d', host.removeRun r s d = (.ok (), d') ∧ store d'.world = (store d.world).remove r.id

namespace RunStore

/-- How a store answers a request for a run, and what becomes of the store. -/
def answer (kind : ActionKind) (i : Int) (S : RunStore) : Except HostError Unit × RunStore :=
  match kind, S.run? i with
  | _, none => (.error ⟨.notFound, "no such run"⟩, S)
  | .cancel, some r => if r.isActive then (.ok (), S.cancel i) else (.error ⟨.conflict, "already finished"⟩, S)
  | .remove, some _ => (.ok (), S.remove i)

/-- A request for a run, answered in a given way. -/
def request (respond : Int → RunStore → Except HostError Unit × RunStore) (r : WorkflowRun) :
    Act RunStore Unit :=
  Act.outside (respond r.id) >>= Act.orRefuse

theorem request_apply (respond : Int → RunStore → Except HostError Unit × RunStore) (r : WorkflowRun)
    (s : Scope) (d : Desk RunStore) :
    request respond r s d =
      ((respond r.id d.world).1.mapError Failure.host, { d with world := (respond r.id d.world).2 }) := by
  rw [request, Act.bind_of_ok _ rfl]
  rcases (respond r.id d.world).1 with _ | _ <;> rfl

/-- A store as a host, with every listing on one page. How it answers requests for runs is given. -/
def host (respond : ActionKind → Int → RunStore → Except HostError Unit × RunStore) : Host RunStore where
  page l _ := Act.outside fun S =>
    (⟨match l with
      | .runs f => S.listed f
      | .pullRequests => S.pulls
      | .branches | .milestones | .labels | .files _ | .commits _ | .comments _ | .statuses _ => [],
      none⟩, S)
  pullRequest _ := pure none
  commit sha := pure ⟨sha, "", ""⟩
  checkRuns _ := pure []
  combinedStatus sha := pure ⟨"", sha, []⟩
  runsPage number _ := Act.outside fun S => (S.block number, S)
  fileText _ _ := pure ""
  removeComment _ := pure ()
  createCheckRun _ := pure true
  createStatus _ := pure true
  cancelRun := request (respond .cancel)
  removeRun := request (respond .remove)
  updateBranch pr := pure pr
  merge _ _ := pure true
  addLabel _ _ := pure ()
  removeLabel _ _ := pure ()
  addComment _ _ := pure ()
  close _ := pure ()
  pageLimit := 1

theorem host_stores : (host answer).Stores id where
  listed _ _ d := ⟨d, rfl, rfl⟩
  pulls _ d := ⟨d, rfl, rfl⟩
  block _ _ _ d := ⟨d, rfl, rfl⟩
  cancel_active r s d x hx hid hactive := by
    have hrun : d.world.run? r.id = some x := hid ▸ run?_of_mem hx
    refine ⟨{ d with world := d.world.cancel r.id }, ?_, rfl⟩
    refine (request_apply _ r s d).trans ?_
    simp [answer, hrun, hactive, Except.mapError]
  cancel_inactive r s d x hx hid hinactive := by
    have hrun : d.world.run? r.id = some x := hid ▸ run?_of_mem hx
    refine ⟨⟨.conflict, "already finished"⟩, d, ?_, rfl, rfl⟩
    refine (request_apply _ r s d).trans ?_
    simp [answer, hrun, hinactive, Except.mapError]
  remove r s d x hx hid := by
    have hrun : d.world.run? r.id = some x := hid ▸ run?_of_mem hx
    refine ⟨{ d with world := d.world.remove r.id }, ?_, rfl⟩
    refine (request_apply _ r s d).trans ?_
    simp [answer, hrun, Except.mapError]

/-! ## Examples

The examples in the modules on passes are about runs of one workflow, which were updated on the first day of
the calendar, and about governors that look at them on that day or two months later. -/

def march : Stamp :=
  { (default : Stamp) with date := { Date.first with month := 3, month_mem := by decide, day_mem := by decide } }

def queuedRun (i : Int) (branch event : String) : WorkflowRun :=
  { id := i, name := "build", headBranch := branch, runNumber := i, event := event, status := "queued",
    conclusion := none, updatedAt := default }

/-- A store of two queued runs of a branch. -/
def pairDesk : Desk RunStore :=
  ⟨⟨[queuedRun 2 "main" "push", queuedRun 1 "main" "push"], [], by decide⟩, #[]⟩

/-- A governor of the runs in a store, with a clock that stands still. -/
def governor (respond : ActionKind → Int → RunStore → Except HostError Unit × RunStore) (now : Stamp) :
    Governor RunStore :=
  ⟨host respond, { trustedCommitters := ["alice"], retentionPageCount := 1 }, pure now, false, 1⟩

theorem governor_request (respond : ActionKind → Int → RunStore → Except HostError Unit × RunStore)
    (now : Stamp) (kind : ActionKind) (r : WorkflowRun) :
    (governor respond now).request kind r = request (respond kind) r := by
  cases kind <;> rfl

section Reading

variable (respond respond' : ActionKind → Int → RunStore → Except HostError Unit × RunStore) (now : Stamp)

theorem governor_page_alike (listing : Listing) (cursor : Option Cursor) :
    Act.Alike (fun d e => d.world = e.world) ((governor respond now).host.page listing cursor)
      ((governor respond' now).host.page listing cursor) := by
  refine Act.alike_of_same fun s d e hsame => ?_
  simp [governor, host, Act.outside, hsame]

theorem governor_runsPage_alike (number : Int) :
    Act.Alike (fun d e => d.world = e.world) ((governor respond now).host.runsPage number 100)
      ((governor respond' now).host.runsPage number 100) := by
  refine Act.alike_of_same fun s d e hsame => ?_
  simp [governor, host, Act.outside, hsame]

end Reading

end RunStore

/-- A governor with a pool of so many workers. -/
def Governor.withWorkers {σ : Type} (g : Governor σ) (workers : Nat) : Governor σ :=
  { g with workers := workers }

theorem Governor.request_withWorkers {σ : Type} (g : Governor σ) (workers : Nat) (kind : ActionKind) (r : WorkflowRun) :
    (g.withWorkers workers).request kind r = g.request kind r := by
  cases kind <;> rfl

end RunSteward
