import RunSteward.Proofs.Governance.Orders
import RunSteward.Proofs.Host.Paging

/-!
# Passes in lockstep

Two governors may run on different worlds, with different hosts, and one of them may only rehearse. If they
find the same work in every listing and obey every order alike, as seen through a relation between their ledgers
and desks (`Workalike`), then whole passes keep that relation (`runPolicies_paired`): both come to an end, or both
stop with the same failure. What two passes have in common is thus proved for one order at a time. Governors that
read alike (`Lockstep`) find the same work; so do governors of which one misses a listing that the other finds
empty.
-/

namespace RunSteward

open Act

variable {σ τ : Type}

namespace Governor

variable {g : Governor σ} {g' : Governor τ}

/-- Two actions, or their absence, whose logging keeps a relation between two passes. -/
def ToldAlike (R : Ledger → Ledger → Desk σ → Desk τ → Prop) (action action' : Option Action) : Prop :=
  ∀ l l', Alike (R l l') (tell action) (tell action')

theorem toldAlike_of_blind {R : Ledger → Ledger → Desk σ → Desk τ → Prop}
    (hblind : ∀ l l' d e log log', R l l' d e → R l l' { d with log := log } { e with log := log' })
    (action action' : Option Action) : ToldAlike R action action' := by
  intro l l' s d e hR
  obtain ⟨log, htell⟩ := tell_notes action s d
  obtain ⟨log', htell'⟩ := tell_notes action' s e
  rw [htell, htell']
  exact .result ⟨rfl, hblind l l' d e log log' hR⟩

/-- A relation between two passes that every move of theirs keeps. Reading leaves the ledgers alone, and
so does an action that ends in a failure. -/
structure Lockstep (g : Governor σ) (g' : Governor τ)
    (R : Ledger → Ledger → Desk σ → Desk τ → Prop) : Prop where
  settings : g'.settings = g.settings
  workers : g'.workers = g.workers
  pageLimit : g'.host.pageLimit = g.host.pageLimit
  page : ∀ l l' listing cursor, Alike (R l l') (g.host.page listing cursor) (g'.host.page listing cursor)
  runsPage : ∀ l l' number, Alike (R l l') (g.host.runsPage number 100) (g'.host.runsPage number 100)
  clock : ∀ l l', Alike (R l l') g.clock g'.clock
  record : ∀ l l' level logger message,
    Alike (R l l') (Act.record level logger message) (Act.record level logger message)
  enact : ∀ l l' (o : Order), Paired (R l l') (g.enact o.kind o.policy o.reason l o.run)
    (g'.enact o.kind o.policy o.reason l' o.run) (fun p q d e => R p.1 q.1 d e ∧ ToldAlike R p.2 q.2) (R l l')

/-- Two findings that make the same work: they are the same, or one is missing and the other is empty. In the
second case the desks stay related whatever is logged. -/
inductive SameWork (R : Desk σ → Desk τ → Prop) {φ : Type} (missing : φ → Prop) (empty : φ) :
    φ → φ → Desk σ → Desk τ → Prop where
  | same {found : φ} {d : Desk σ} {e : Desk τ} (h : R d e) : SameWork R missing empty found found d e
  | spared {found : φ} {d : Desk σ} {e : Desk τ} (hmissing : missing found)
      (h : ∀ log log', R { d with log := log } { e with log := log' }) : SameWork R missing empty found empty d e

theorem SameWork.given {R : Desk σ → Desk τ → Prop} {φ : Type} {missing : φ → Prop} {empty found found' : φ}
    {d : Desk σ} {e : Desk τ} {p : Prop} (h : SameWork R missing empty found found' d e) (hp : p) :
    SameWork (fun d e => p ∧ R d e) missing empty found found' d e := by
  cases h with
  | same hR => exact .same ⟨hp, hR⟩
  | spared hmissing hR => exact .spared hmissing fun log log' => ⟨hp, hR log log'⟩

/-- A relation between two passes that find the same work in all listings and pages of runs and obey orders
alike. -/
structure Workalike (g : Governor σ) (g' : Governor τ)
    (R : Ledger → Ledger → Desk σ → Desk τ → Prop) : Prop where
  settings : g'.settings = g.settings
  listRuns : ∀ l l' filter, Paired (R l l') (g.listRuns filter) (g'.listRuns filter)
    (SameWork (R l l') (· = none) (some [])) (R l l')
  openPullRequests : ∀ l l', Alike (R l l') g.openPullRequests g'.openPullRequests
  runsPage : ∀ l l' number, Paired (R l l') (attempt (g.host.runsPage number 100))
    (attempt (g'.host.runsPage number 100)) (SameWork (R l l') (fun answer => ∃ e, answer = .error e) (.ok []))
    (R l l')
  clock : ∀ l l', Alike (R l l') g.clock g'.clock
  record : ∀ l l' level logger message,
    Alike (R l l') (Act.record level logger message) (Act.record level logger message)
  obey : ∀ l l' o, Paired (R l l') (g.obey l o) (g'.obey l' o) R (R l l')

theorem openPullRequests_alike {R : Desk σ → Desk τ → Prop}
    (hcollect : Alike R (attempt (g.host.collect .pullRequests)) (attempt (g'.host.collect .pullRequests)))
    (hrecord : ∀ level logger message, Alike R (Act.record level logger message) (Act.record level logger message)) :
    Alike R g.openPullRequests g'.openPullRequests := by
  refine Alike.bind hcollect fun answer => ?_
  cases answer with
  | error e => exact Alike.bind (hrecord _ _ _) fun _ => alike_pure _
  | ok pulls => exact Alike.bind (hrecord _ _ _) fun _ => alike_pure _

namespace Lockstep

variable {R : Ledger → Ledger → Desk σ → Desk τ → Prop} (h : Lockstep g g' R) (l l' : Ledger)

/-- The desks of passes that failed: they are related by some ledgers. -/
def Lost (R : Ledger → Ledger → Desk σ → Desk τ → Prop) (d : Desk σ) (e : Desk τ) : Prop :=
  ∃ l l', R l l' d e

theorem lost_of (d : Desk σ) (e : Desk τ) (hR : R l l' d e) : Lost R d e :=
  ⟨l, l', hR⟩

/-- The ledgers of two passes with something that they found in common. -/
def Beside {α : Type} (R : Ledger → Ledger → Desk σ → Desk τ → Prop) (p q : Ledger × α) (d : Desk σ)
    (e : Desk τ) : Prop :=
  p.2 = q.2 ∧ R p.1 q.1 d e

include h

theorem collect (listing : Listing) :
    Alike (R l l') (g.host.collect listing) (g'.host.collect listing) := by
  refine Alike.bind (Host.gather_alike h.pageLimit (h.page l l' listing)) ?_
  rintro ⟨items, _ | e⟩
  · exact alike_pure _
  · exact alike_fail _

omit h in
/-- Logging never fails, so it may be left out of what the failures of two passes leave. -/
theorem tell_paired {action action' : Option Action} {E : Desk σ → Desk τ → Prop} (htold : ToldAlike R action action') :
    Paired (R l l') (tell action >>= fun _ => pure l) (tell action' >>= fun _ => pure l') R E := by
  intro s d e hR
  obtain ⟨log, htell⟩ := tell_notes action s d
  obtain ⟨log', htell'⟩ := tell_notes action' s e
  have hagree := htold l l' s d e hR
  rw [htell, htell'] at hagree
  rw [bind_of_ok _ htell, bind_of_ok _ htell']
  cases hagree with
  | result hres => exact .result hres.2

theorem obey (o : Order) : Paired (R l l') (g.obey l o) (g'.obey l' o) R (R l l') := by
  refine Paired.bind (h.enact l l' o) fun p q => ?_
  rintro s d e ⟨hR, htold⟩
  exact tell_paired p.1 q.1 htold s d e hR

theorem workalike : Workalike g g' R where
  settings := h.settings
  listRuns l l' filter := by
    refine Alike.then (h.collect l l' (.runs filter)).attempt (fun _ _ hR => hR) fun answer => ?_
    cases answer with
    | error e =>
      exact Alike.then (h.record l l' _ _ _) (fun _ _ hR => hR) fun _ => paired_pure fun _ _ hR => .same hR
    | ok runs => exact paired_pure fun _ _ hR => .same hR
  openPullRequests l l' := openPullRequests_alike (h.collect l l' .pullRequests).attempt (h.record l l')
  runsPage l l' number := by
    refine (h.runsPage l l' number).attempt.mono ?_ fun _ _ hR => hR
    rintro answer _ _ _ ⟨rfl, hR⟩
    exact .same hR
  clock := h.clock
  record := h.record
  obey l l' o := h.obey l l' o

end Lockstep

namespace Workalike

open Lockstep

variable {R : Ledger → Ledger → Desk σ → Desk τ → Prop} (h : Workalike g g' R) (l l' : Ledger)
include h

/-! ### Queued duplicates -/

theorem obeyAll (orders : List Order) :
    Paired (R l l') (g.obeyAll l orders) (g'.obeyAll l' orders) R (Lost R) := by
  induction orders generalizing l l' with
  | nil => exact paired_pure fun _ _ hR => hR
  | cons o orders ih =>
    rw [obeyAll_cons, obeyAll_cons]
    exact Paired.bind ((h.obey l l' o).mono (fun _ _ _ _ hR => hR) (lost_of l l')) fun l l' => ih l l'

theorem cancelEach (runs : List WorkflowRun) :
    Paired (R l l') (g.cancelEach l runs) (g'.cancelEach l' runs) (Beside R) (Lost R) := by
  induction runs generalizing l l' with
  | nil => exact paired_pure fun _ _ hR => ⟨rfl, hR⟩
  | cons r runs ih =>
    refine Paired.bind (h.obey l l' ⟨.duplicateQueued, .cancel, .superseded, r⟩).outcome fun a b => ?_
    intro s d e hagree
    cases hagree with
    | result hR => exact ih _ _ s d e hR
    | failure f hR => exact .result ⟨rfl, hR⟩

theorem cancelDuplicates (filter : RunFilter) :
    Paired (R l l') (g.cancelDuplicates filter l) (g'.cancelDuplicates filter l') (Beside R) (Lost R) := by
  refine Paired.bind (h.listRuns l l' filter).outcome fun a b => ?_
  intro s d e hagree
  cases hagree with
  | failure f hR => exact .result ⟨rfl, hR⟩
  | @result found found' _ _ hfound =>
    cases hfound with
    | same hR =>
      cases found with
      | none => exact .result ⟨rfl, hR⟩
      | some runs =>
        refine Alike.then (h.record l l' _ _ _) (lost_of l l') (fun _ => ?_) s d e hR
        refine Paired.bind (h.cancelEach l l' (duplicateRuns runs)) fun p q => ?_
        rintro s d e ⟨hended, hR⟩
        exact .result ⟨congrArg (Except.map fun _ => runs) hended, hR⟩
    | spared hmissing hR =>
      -- of an empty listing nothing is cancelled
      subst hmissing
      have hnone : duplicateRuns [] = [] := by simp [duplicateRuns]
      dsimp only
      rw [hnone]
      exact .result ⟨rfl, hR d.log _⟩

theorem cancelInBranches (branches : List Branch) :
    Paired (R l l') (g.cancelInBranches l branches) (g'.cancelInBranches l' branches) (Beside R)
      (Lost R) := by
  induction branches generalizing l l' with
  | nil => exact paired_pure fun _ _ hR => ⟨rfl, hR⟩
  | cons b branches ih =>
    refine Paired.bind ((h.cancelDuplicates l l' _).within _) fun ⟨l, ended⟩ ⟨l', ended'⟩ => ?_
    rintro s d e ⟨rfl, hfirst⟩
    refine Paired.bind (ih l l') (fun ⟨l, later⟩ ⟨l', later'⟩ => ?_) s d e hfirst
    rintro s d e ⟨rfl, hR⟩
    cases ended with
    | ok runs => exact .result ⟨rfl, hR⟩
    | error f => exact .result ⟨rfl, hR⟩

theorem cancelQueuedBy {P : Desk σ → Desk τ → Prop} {x : Act σ (Ledger × Except Failure Unit)}
    {y : Act τ (Ledger × Except Failure Unit)} (hin : Paired P x y (Beside R) (Lost R)) :
    Paired P (g.cancelQueuedBy x) (g'.cancelQueuedBy y) (Beside R) (Lost R) := by
  refine Paired.bind hin fun ⟨l, ended⟩ ⟨l', ended'⟩ => ?_
  rintro s d e ⟨rfl, hR⟩
  cases ended with
  | error f => exact .failure f (lost_of l l' d e hR)
  | ok _ =>
    refine Paired.bind (h.cancelDuplicates l l' _) (fun ⟨l, found⟩ ⟨l', found'⟩ => ?_) s d e hR
    rintro s d e ⟨rfl, hR⟩
    cases found with
    | error f => exact .failure f (lost_of l l' d e hR)
    | ok runs => exact .result ⟨rfl, hR⟩

theorem cancelQueuedDuplicates (branches : List Branch) :
    Paired (R l l') (g.cancelQueuedDuplicates branches l) (g'.cancelQueuedDuplicates branches l')
      (Beside R) (Lost R) :=
  h.cancelQueuedBy (h.cancelInBranches l l' branches)

/-! ### The other policies -/

theorem clearOrphans (runs : List WorkflowRun) (pulls : List PullRequest) :
    Paired (R l l') (g.clearOrphans runs pulls l) (g'.clearOrphans runs pulls l') R (Lost R) := by
  rw [clearOrphans_eq, clearOrphans_eq]
  exact h.obeyAll l l' _

theorem purgeAll (now : Stamp) (runs : List WorkflowRun) :
    Paired (R l l') (runs.foldlM (g.purgeRun now) l) (runs.foldlM (g'.purgeRun now) l') R (Lost R) := by
  induction runs generalizing l l' with
  | nil => exact paired_pure fun _ _ hR => hR
  | cons r runs ih =>
    rw [List.foldlM_cons, List.foldlM_cons]
    refine Paired.bind ?_ fun l l' => ih l l'
    rcases hx : r.expiry g.settings now with f | x
    · rw [purgeRun, purgeRun, h.settings, hx]
      exact fun _ _ _ hR => .failure _ (lost_of l l' _ _ hR)
    · rw [purgeRun_eq hx, purgeRun_eq (h.settings ▸ hx), h.settings]
      exact h.obeyAll l l' _

theorem purgePage (now : Stamp) (page : Int) :
    Paired (R l l') (g.purgePage now l page) (g'.purgePage now l' page) R (Lost R) := by
  refine Paired.bind ((h.runsPage l l' page).mono (fun _ _ _ _ hfound => hfound) (lost_of l l')) ?_
  intro answer answer' s d e hfound
  cases hfound with
  | same hR =>
    cases answer with
    | error error =>
      exact Alike.then (h.record l l' _ _ _) (lost_of l l') (fun _ => paired_pure fun _ _ hR => hR) s d e hR
    | ok runs => exact Alike.then (h.record l l' _ _ _) (lost_of l l') (fun _ => h.purgeAll l l' now runs) s d e hR
  | spared hmissing hR =>
    obtain ⟨error, rfl⟩ := hmissing
    exact .result (hR _ _)

theorem purgeDown (now : Stamp) (pages : Nat) :
    Paired (R l l') (g.purgeDown now pages l) (g'.purgeDown now pages l') R (Lost R) := by
  induction pages generalizing l l' with
  | zero => exact paired_pure fun _ _ hR => hR
  | succ page ih => exact Paired.bind (h.purgePage l l' now _) fun l l' => ih l l'

theorem purge : Paired (R l l') (g.purge l) (g'.purge l') R (Lost R) := by
  refine Alike.then (h.clock l l') (lost_of l l') fun now => ?_
  rw [h.settings]
  exact h.purgeDown l l' now _

/-- Work on a listing that starts with a note of what was found, and leaves the ledger alone where it is missing. -/
theorem listed {filter : RunFilter} {rest : Option (List WorkflowRun) → Act σ Ledger}
    {rest' : Option (List WorkflowRun) → Act τ Ledger}
    (hnone : Paired (R l l') (rest none) (rest' none) R (Lost R))
    (hsome : ∀ runs, Paired (R l l') (rest (some runs)) (rest' (some runs)) R (Lost R))
    (hempty : ∀ s d e, ∃ log log', rest none s d = (.ok l, { d with log := log }) ∧
      rest' (some []) s e = (.ok l', { e with log := log' })) :
    Paired (R l l') (g.listRuns filter >>= rest) (g'.listRuns filter >>= rest') R (Lost R) := by
  refine Paired.bind ((h.listRuns l l' filter).mono (fun _ _ _ _ hfound => hfound) (lost_of l l')) ?_
  intro found found' s d e hfound
  cases hfound with
  | same hR =>
    cases found with
    | none => exact hnone s d e hR
    | some runs => exact hsome runs s d e hR
  | spared hmissing hR =>
    subst hmissing
    obtain ⟨log, log', hrest, hrest'⟩ := hempty s d e
    rw [hrest, hrest']
    exact .result (hR log log')

theorem sweepCancelled : Paired (R l l') (g.sweepCancelled l) (g'.sweepCancelled l') R (Lost R) := by
  refine h.listed l l' (paired_pure fun _ _ hR => hR) (fun runs => ?_) fun s d e => ⟨_, _, rfl, rfl⟩
  refine Alike.then (h.record l l' _ _ _) (lost_of l l') fun _ => ?_
  rw [sweep_eq, sweep_eq]
  exact h.obeyAll l l' _

theorem prune (pulls : List PullRequest) :
    Paired (R l l') (g.prune pulls l) (g'.prune pulls l') R (Lost R) := by
  refine h.listed l l' (paired_pure fun _ _ hR => hR) (fun runs => ?_) fun s d e => ⟨_, _, rfl, rfl⟩
  refine Alike.then (h.record l l' _ _ _) (lost_of l l') fun _ => ?_
  rw [pruneAll_eq, pruneAll_eq, h.settings]
  exact h.obeyAll l l' _

/-! ### The pass -/

/-- Passes that find the same work stay in lockstep, if they do so in the branches. -/
theorem runPoliciesBy_paired {P : Desk σ → Desk τ → Prop} {x : Act σ (Ledger × Except Failure Unit)}
    {y : Act τ (Ledger × Except Failure Unit)} (hin : Paired P x y (Beside R) (Lost R)) :
    Paired P (g.runPoliciesBy x) (g'.runPoliciesBy y) R (Lost R) := by
  refine Paired.bind (h.cancelQueuedBy hin) fun ⟨l, queued⟩ ⟨l', queued'⟩ => ?_
  rintro s d e ⟨rfl, hR⟩
  refine Alike.then (h.openPullRequests l l') (lost_of l l') (fun pulls => ?_) s d e hR
  cases pulls with
  | none =>
    refine Paired.bind (paired_pure (Q := R) fun _ _ hR => hR) fun l l' => ?_
    refine Paired.bind (h.purge l l') fun l l' => ?_
    exact Paired.bind (h.sweepCancelled l l') fun l l' => paired_pure fun _ _ hR => hR
  | some pulls =>
    refine Paired.bind (h.clearOrphans l l' queued pulls) fun l l' => ?_
    refine Paired.bind (h.purge l l') fun l l' => ?_
    exact Paired.bind (h.sweepCancelled l l') fun l l' => h.prune l l' pulls

/-- **Passes that find the same work stay in lockstep.** -/
theorem runPolicies_paired (branches : List Branch) :
    Paired (R {} {}) (g.runPolicies branches) (g'.runPolicies branches) R (Lost R) :=
  h.runPoliciesBy_paired (h.cancelInBranches _ _ branches)

omit h

theorem passOf_alike {S : Desk σ → Desk τ → Prop} (h : Workalike g g' fun l l' d e => l = l' ∧ S d e)
    (hrehearsal : g'.rehearsal = g.rehearsal) (branches : List Branch) {x : Act σ Ledger} {y : Act τ Ledger}
    (hpolicies : Paired (fun d e => ({} : Ledger) = {} ∧ S d e) x y (fun l l' d e => l = l' ∧ S d e)
      (Lost fun l l' d e => l = l' ∧ S d e)) :
    Alike S (g.passOf branches x) (g'.passOf branches y) := by
  have hnoted : ∀ level logger message, Alike S (Act.record level logger message) (Act.record level logger message) :=
    fun level logger message s d e hS => (h.record {} {} level logger message s d e ⟨rfl, hS⟩).mono
      (fun _ _ _ _ hres => ⟨hres.1, hres.2.2⟩) fun _ _ hlost => hlost.2
  unfold passOf
  rw [hrehearsal]
  refine Alike.bind (hnoted _ _ _) fun _ => ?_
  have hledgers : Paired S x y (fun l l' d e => l = l' ∧ S d e) S := by
    intro s d e hS
    refine (hpolicies s d e ⟨rfl, hS⟩).mono (fun _ _ _ _ hres => hres) ?_
    rintro d e ⟨_, _, _, hlost⟩
    exact hlost
  exact Alike.bind hledgers fun l => Alike.bind (hnoted _ _ _) fun _ => alike_pure _

theorem runPass_alike {S : Desk σ → Desk τ → Prop} (h : Workalike g g' fun l l' d e => l = l' ∧ S d e)
    (hrehearsal : g'.rehearsal = g.rehearsal) (branches : List Branch) :
    Alike S (g.runPass branches) (g'.runPass branches) :=
  h.passOf_alike hrehearsal branches (h.runPolicies_paired branches)

end Workalike

end Governor

end RunSteward
