import RunSteward.Proofs.Governance.Watched

/-!
# Surveys

A survey is what a pass found out about the runs of its host: the listings it walked through, each with its
lookups and the page where it was refused, if there is one (`Walk`, `Found`), the pages of the
retention scan and the time. The orders of a pass are a function of its survey (`Survey.orders`), and so is the
sequence of its lookups. How the orders were obeyed, one after another, is `Obeyed`.
-/

namespace RunSteward

/-! ## Listings -/

/-- A listing walked through from a place on: its pages as they were looked up, the items on them, and the
error of the page that was refused, if there is one. -/
inductive Walk (listing : Listing) :
    Option Cursor → List Lookup → List listing.Item → Option HostError → Prop where
  | refused (cursor : Option Cursor) (e : HostError) :
      Walk listing cursor [.page listing cursor (.error (.host e))] [] (some e)
  | last (cursor : Option Cursor) (items : List listing.Item) :
      Walk listing cursor [.page listing cursor (.ok ⟨items, none⟩)] items none
  | further (cursor : Option Cursor) (items : List listing.Item) (next : Cursor)
      {lookups : List Lookup} {rest : List listing.Item} {error : Option HostError}
      (h : Walk listing (some next) lookups rest error) :
      Walk listing cursor (.page listing cursor (.ok ⟨items, some next⟩) :: lookups) (items ++ rest) error

/-- A listing that was walked through from its first page on. -/
structure Found (listing : Listing) where
  lookups : List Lookup
  items : List listing.Item
  error : Option HostError
  walk : Walk listing none lookups items error

namespace Found

variable {listing : Listing}

/-- All items of a listing, if no page was refused. -/
def all? (f : Found listing) : Option (List listing.Item) :=
  match f.error with
  | none => some f.items
  | some _ => none

/-- The items to work on: none at all if a page was refused. -/
def work (f : Found listing) : List listing.Item :=
  f.all?.getD []

theorem walk_of_mem_work {f : Found listing} {x : listing.Item} (h : x ∈ f.work) :
    Walk listing none f.lookups f.work none := by
  obtain ⟨lookups, items, _ | e, hwalk⟩ := f
  · exact hwalk
  · simp [work, all?] at h

theorem walk_of_all? {f : Found listing} {items : List listing.Item} (h : f.all? = some items) :
    Walk listing none f.lookups items none := by
  obtain ⟨lookups, items', _ | e, hwalk⟩ := f
  · obtain rfl : items' = items := by simpa [all?] using h
    exact hwalk
  · simp [all?] at h

end Found

/-- A page of runs that was asked for, with the answer. -/
structure Scan where
  number : Int
  answer : Except HostError (List WorkflowRun)

namespace Scan

def lookup (p : Scan) : Lookup :=
  .runsPage p.number 100 (p.answer.mapError Failure.host)

/-- The runs on the page: none at all if it was refused. -/
def work (p : Scan) : List WorkflowRun :=
  p.answer.toOption.getD []

theorem lookup_of_mem_work {p : Scan} {r : WorkflowRun} (h : r ∈ p.work) :
    p.lookup = .runsPage p.number 100 (.ok p.work) := by
  obtain ⟨number, e | runs⟩ := p
  · simp [work, Except.toOption] at h
  · rfl

end Scan

/-- The page numbers from a given one down to the first. -/
def pagesDown : Nat → List Int
  | 0 => []
  | page + 1 => (page + 1 : Int) :: pagesDown page

theorem mem_pagesDown {count : Nat} {number : Int} :
    number ∈ pagesDown count ↔ 1 ≤ number ∧ number ≤ count := by
  induction count with
  | zero =>
    simp only [pagesDown, List.not_mem_nil, false_iff]
    omega
  | succ count ih =>
    rw [pagesDown, List.mem_cons, ih]
    omega

/-! ## The survey of a pass -/

/-- What a pass found out. The runs of pull requests are listed only if all open pull requests are known. -/
structure Survey (settings : GovernanceSettings) (branches : List Branch) where
  onBranches : List ((b : Branch) × Found (.runs (.queuedOn b)))
  onBranches_fst : onBranches.map Sigma.fst = branches
  queued : Found (.runs .queuedOfPulls)
  pulls : Found .pullRequests
  now : Stamp
  pages : List Scan
  pages_number : pages.map Scan.number = pagesDown settings.retentionPageCount.toNat
  cancelled : Found (.runs .cancelled)
  prunable : Option (Found (.runs .ofPulls))
  prunable_isSome : prunable.isSome = pulls.all?.isSome

namespace Survey

variable {settings : GovernanceSettings} {branches : List Branch} (v : Survey settings branches)

/-- The lookups of a pass, part by part. -/
def lookups : List Lookup :=
  [v.onBranches.flatMap fun b => b.2.lookups, v.queued.lookups, v.pulls.lookups, [.clock (.ok v.now)],
    v.pages.map Scan.lookup, v.cancelled.lookups, (v.prunable.map Found.lookups).getD []].flatten

/-- The orders that a survey leads to, policy by policy. -/
def orders : List Order :=
  [v.onBranches.flatMap fun b => Order.ofDuplicates b.2.work, Order.ofDuplicates v.queued.work,
    (v.pulls.all?.map (Order.ofOrphans v.queued.work)).getD [],
    v.pages.flatMap fun p => p.work.flatMap (Order.ofExpiry settings v.now),
    Order.ofCancelled v.cancelled.work,
    (v.pulls.all?.map fun pulls =>
      ((v.prunable.map Found.work).getD []).flatMap (Order.ofPruning settings pulls)).getD []].flatten

end Survey

/-! ## Orders obeyed -/

/-- Orders obeyed from one ledger to another, with the requests that were sent. -/
inductive Obeyed (rehearsal : Bool) : Ledger → List Order → Ledger → List Call → Prop where
  | nil (l : Ledger) : Obeyed rehearsal l [] l []
  | already {l l' : Ledger} {o : Order} {os : List Order} {calls : List Call}
      (h : l.already o.kind o.run.id = true) (rest : Obeyed rehearsal l os l' calls) :
      Obeyed rehearsal l (o :: os) l' calls
  | planned {l l' : Ledger} {o : Order} {os : List Order} {calls : List Call}
      (hrehearsal : rehearsal = true) (h : l.already o.kind o.run.id = false)
      (rest : Obeyed rehearsal (l.record (o.action .planned)) os l' calls) :
      Obeyed rehearsal l (o :: os) l' calls
  | sent {l l' : Ledger} {o : Order} {os : List Order} {calls : List Call}
      (hreal : rehearsal = false) (h : l.already o.kind o.run.id = false)
      (answer : Except HostError Unit)
      (rest : Obeyed rehearsal (l.record (o.action (Governor.outcomeOf answer))) os l' calls) :
      Obeyed rehearsal l (o :: os) l' (⟨o.kind, o.run, answer.mapError Failure.host⟩ :: calls)

theorem Obeyed.append {rehearsal : Bool} {l l' l'' : Ledger} {os os' : List Order}
    {calls calls' : List Call} (h : Obeyed rehearsal l os l' calls)
    (h' : Obeyed rehearsal l' os' l'' calls') :
    Obeyed rehearsal l (os ++ os') l'' (calls ++ calls') := by
  induction h with
  | nil l => exact h'
  | already h _ ih => exact .already h (ih h')
  | planned hrehearsal h _ ih => exact .planned hrehearsal h (ih h')
  | sent hreal h answer _ ih => exact .sent hreal h answer (ih h')

end RunSteward
