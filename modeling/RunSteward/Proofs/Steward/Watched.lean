import RunSteward.Proofs.Branches.Active
import RunSteward.Proofs.Governance.Findings
import RunSteward.Steward

/-!
# Watched stewards

Before its governor runs a pass, a steward reads the open milestones and the branches of its host. Of both it takes
what was shown before a page was refused. So a steward looks up two listings, and then what its governor surveys
for the governed branches (`runPass_surveyed`); and if a branch cannot be judged, it looks up and asks for no more
(`runPass_unjudged`).
-/

namespace RunSteward

open Act

variable {σ : Type}

theorem Act.Settles.tells {α : Type} {x : Act (Watched σ) α} {r : Except Fault α} (h : Settles x r) :
    Tells x fun a lookups calls => r = .ok a ∧ lookups = [] ∧ calls = [] := by
  intro s d
  obtain ⟨log, hend⟩ := h s d
  refine ⟨[], [], by simp [hend, Desk.Grew], ?_⟩
  rw [hend]
  rintro a ha
  cases r with
  | error f => cases ha
  | ok b => exact ⟨congrArg Except.ok (Except.ok.inj ha), rfl, rfl⟩

namespace Steward

def watched (st : Steward σ) : Steward (Watched σ) :=
  ⟨st.config, st.governor.watched⟩

/-- What a steward reads in a pass, in order. -/
def lookups (st : Steward σ) (s : Scope) (d : Desk σ) : List Lookup :=
  (st.watched.runPass s d.watched).2.world.lookups

/-- The requests that a steward sends in a pass, in order. -/
def calls (st : Steward σ) (s : Scope) (d : Desk σ) : List Call :=
  (st.watched.runPass s d.watched).2.world.calls

/-- The branches that a steward governs among those that its host shows, given what it shows of the milestones. -/
def governed (st : Steward σ) (milestones : List Milestone) (branches : List Branch) : List Branch :=
  Host.governed (.ofRepo st.config.repo) (milestones.filter Milestone.isOpen) branches

/-! ## Listings -/

/-- What a steward reads before it judges the branches: the open milestones, and the branches that are shown. -/
def read (st : Steward σ) : Act σ (List Milestone × List Branch × Option HostError) := do
  let milestones ← st.activeMilestones
  return (milestones, ← st.host.gather .branches)

theorem activeBranches_eq (st : Steward σ) :
    ∃ rest, st.activeBranches = st.read >>= rest ∧
      ∀ listed, Settles (rest listed) (Host.judged (.ofRepo st.config.repo) listed.1 listed.2.1) := by
  choose rest hrest hsettles using st.host.activeBranches_eq (.ofRepo st.config.repo)
  refine ⟨fun listed => rest listed.1 listed.2, ?_, fun listed => hsettles listed.1 listed.2⟩
  rw [read, bind_assoc]
  refine congrArg (st.activeMilestones >>= ·) (funext fun milestones => ?_)
  rw [bind_assoc, branchesUnder, hrest]
  exact congrArg (st.host.gather .branches >>= ·) (funext fun gathered => (pure_bind _ _).symm)

theorem tells_read (st : Steward σ) :
    Tells st.watched.read fun listed lookups calls =>
      ∃ (m : Found .milestones) (b : Found .branches), lookups = m.lookups ++ b.lookups ∧
        listed.1 = m.items.filter Milestone.isOpen ∧ listed.2.1 = b.items ∧ calls = [] := by
  obtain ⟨restM, hmilestones, hnotesM⟩ := st.governor.host.watched.openMilestones_eq
  have htoldM : Tells st.watched.activeMilestones fun milestones lookups calls =>
      ∃ m : Found .milestones, lookups = m.lookups ∧ milestones = m.items.filter Milestone.isOpen ∧ calls = [] := by
    change Tells st.governor.host.watched.openMilestones _
    rw [hmilestones]
    refine Tells.bind (st.governor.host.tells_gatherFrom .milestones _ none) ?_
    rintro ⟨items, error⟩ lookups _ ⟨hwalk, rfl⟩
    refine (hnotesM (items, error)).settles.tells.mono ?_
    rintro milestones _ _ ⟨hopen, rfl, rfl⟩
    exact ⟨⟨lookups, items, error, hwalk⟩, List.append_nil _, (Except.ok.inj hopen).symm, rfl⟩
  refine Tells.bind htoldM ?_
  rintro _ _ _ ⟨m, rfl, rfl, rfl⟩
  refine Tells.bind (st.governor.host.tells_gatherFrom .branches _ none) ?_
  rintro ⟨items, error⟩ lookups _ ⟨hwalk, rfl⟩
  exact tells_pure ⟨m, ⟨lookups, items, error, hwalk⟩, by simp, rfl, rfl, rfl⟩

theorem tells_activeBranches (st : Steward σ) :
    Tells st.watched.activeBranches fun active lookups calls =>
      ∃ (m : Found .milestones) (b : Found .branches), lookups = m.lookups ++ b.lookups ∧
        Host.judged (.ofRepo st.config.repo) (m.items.filter Milestone.isOpen) b.items = .ok active ∧ calls = [] := by
  obtain ⟨rest, heq, hsettles⟩ := st.watched.activeBranches_eq
  rw [heq]
  refine Tells.bind st.tells_read ?_
  rintro ⟨_, _, error⟩ _ _ ⟨m, b, rfl, rfl, rfl, rfl⟩
  refine (hsettles _).tells.mono ?_
  rintro active _ _ ⟨hjudged, rfl, rfl⟩
  exact ⟨m, b, List.append_nil _, hjudged, rfl⟩

section Alike

variable (st : Steward σ)

theorem page_watched (listing : Listing) (cursor : Option Cursor) :
    Alike Desk.IsBare (st.watched.host.page listing cursor) (st.host.page listing cursor) :=
  watched_alike (fun answer w => w.lookedUp (.page listing cursor answer)) (fun _ _ => rfl) _

theorem activeMilestones_watched : Alike Desk.IsBare st.watched.activeMilestones st.activeMilestones :=
  Host.openMilestones_alike rfl record_alike (st.page_watched .milestones)

theorem read_watched : Alike Desk.IsBare st.watched.read st.read :=
  Alike.bind st.activeMilestones_watched fun _ =>
    Alike.bind (Host.gather_alike rfl (st.page_watched .branches)) fun _ => alike_pure _

theorem activeBranches_watched : Alike Desk.IsBare st.watched.activeBranches st.activeBranches :=
  Alike.bind st.activeMilestones_watched fun milestones =>
    Host.activeBranches_alike (by rfl) record_alike (st.page_watched .branches) _ milestones

end Alike

/-! ## Passes -/

theorem runPass_alike (st : Steward σ) : Alike Desk.IsBare st.watched.runPass st.runPass := by
  have hbody : Alike Desk.IsBare (st.watched.activeBranches >>= st.watched.governor.runPass)
      (st.activeBranches >>= st.governor.runPass) :=
    Alike.bind st.activeBranches_watched fun branches => st.governor.runPass_alike branches
  exact Paired.within (fun s => { s with repo := some st.fullName }) hbody

/-- **A pass of a steward obeys the orders of its survey**: its lookups are those of two listings and of the survey
of the branches that it governs by them. -/
theorem runPass_surveyed {st : Steward σ} {s : Scope} {d : Desk σ} {report : Report}
    (hreport : (st.runPass s d).1 = .ok report) :
    ∃ (m : Found .milestones) (b : Found .branches)
      (v : Survey st.governor.settings (st.governed m.items b.items)) (l : Ledger),
      (∀ x ∈ b.items, ((Classifier.ofRepo st.config.repo).isGoverned x.name (m.items.filter Milestone.isOpen)).isOk) ∧
        st.lookups s d = m.lookups ++ b.lookups ++ v.lookups ∧
        Obeyed st.governor.rehearsal {} v.orders l (st.calls s d) ∧ report = l.report := by
  have htold : Tells st.watched.runPass fun report lookups calls =>
      ∃ (m : Found .milestones) (b : Found .branches)
        (v : Survey st.governor.settings (st.governed m.items b.items)) (l : Ledger),
        (∀ x ∈ b.items, ((Classifier.ofRepo st.config.repo).isGoverned x.name
          (m.items.filter Milestone.isOpen)).isOk) ∧
          lookups = m.lookups ++ b.lookups ++ v.lookups ∧
          Obeyed st.governor.rehearsal {} v.orders l calls ∧ report = l.report := by
    refine Tells.within (fun s => { s with repo := some st.fullName }) ?_
    change Tells (st.watched.activeBranches >>= st.governor.watched.runPass) _
    refine Tells.bind st.tells_activeBranches ?_
    rintro _ _ _ ⟨m, b, rfl, hjudged, rfl⟩
    obtain ⟨hall, rfl⟩ := Host.judged_eq_ok_iff.mp hjudged
    refine (st.governor.tells_runPass (st.governed m.items b.items)).mono ?_
    rintro report _ calls ⟨v, l, rfl, hobeyed, rfl⟩
    exact ⟨m, b, v, l, hall, rfl, hobeyed, rfl⟩
  obtain ⟨lookups, calls, ⟨hlookups, hcalls⟩, htold⟩ := htold s d.watched
  have hsame := (st.runPass_alike.same (s := s) (show d.watched.IsBare d from rfl)).1
  obtain ⟨m, b, v, l, hall, rfl, hobeyed, hledger⟩ := htold report (hsame.trans hreport)
  have hcalls : st.calls s d = calls := hcalls.trans (List.nil_append _)
  refine ⟨m, b, v, l, hall, hlookups.trans (List.nil_append _), ?_, hledger⟩
  rwa [hcalls]

theorem runPass_of_unlisted {st : Steward σ} {s : Scope} {d d' : Desk σ} {e : Failure}
    (h : st.activeBranches { s with repo := some st.fullName } d = (.error e, d')) : st.runPass s d = (.error e, d') :=
  bind_of_error _ h

/-- A pass breaks off over a branch that cannot be judged, after two listings and without any request. -/
theorem runPass_unjudged {st : Steward σ} {s : Scope} {d d' : Desk σ} {f : Fault}
    {listed : List Milestone × List Branch × Option HostError}
    (hread : st.read { s with repo := some st.fullName } d = (.ok listed, d'))
    (hjudged : Host.judged (.ofRepo st.config.repo) listed.1 listed.2.1 = .error f) :
    (∃ d₁, st.runPass s d = (.error (.fault f), d₁) ∧ d₁.world = d'.world) ∧
      ∃ (m : Found .milestones) (b : Found .branches),
        listed.1 = m.items.filter Milestone.isOpen ∧ listed.2.1 = b.items ∧
          st.lookups s d = m.lookups ++ b.lookups ∧ st.calls s d = [] := by
  -- the steward and its watched counterpart break off in the same way
  have hends : ∀ {τ : Type} (st : Steward τ) (e e' : Desk τ),
      st.read { s with repo := some st.fullName } e = (.ok listed, e') →
      Host.judged (.ofRepo st.config.repo) listed.1 listed.2.1 = .error f →
      ∃ log, st.runPass s e = (.error (.fault f), { e' with log := log }) := by
    intro τ st e e' hread hjudged
    obtain ⟨rest, heq, hsettles⟩ := st.activeBranches_eq
    obtain ⟨log, hrest⟩ := hsettles listed { s with repo := some st.fullName } e'
    rw [hjudged] at hrest
    exact ⟨log, runPass_of_unlisted (by rw [heq, bind_of_ok _ hread, hrest]; rfl)⟩
  obtain ⟨log, hend⟩ := hends st d d' hread hjudged
  refine ⟨⟨_, hend, rfl⟩, ?_⟩
  obtain ⟨hsame, -⟩ := st.read_watched.same (s := { s with repo := some st.fullName })
    (show d.watched.IsBare d from rfl)
  obtain ⟨lookups, calls, ⟨hlookups, hcalls⟩, htold⟩ := st.tells_read { s with repo := some st.fullName } d.watched
  rw [hread] at hsame
  obtain ⟨m, b, rfl, hopen, hitems, rfl⟩ := htold listed hsame
  obtain ⟨log', hend'⟩ := hends st.watched d.watched _ (Prod.ext hsame rfl) hjudged
  refine ⟨m, b, hopen, hitems, ?_, ?_⟩
  · rw [Steward.lookups, hend']
    exact hlookups.trans (List.nil_append _)
  · rw [Steward.calls, hend']
    exact hcalls

end Steward

end RunSteward
