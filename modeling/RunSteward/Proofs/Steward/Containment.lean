import RunSteward.Proofs.Config.Soundness
import RunSteward.Proofs.Governance.Completion
import RunSteward.Proofs.Governance.Leniency
import RunSteward.Proofs.Governance.Warrant
import RunSteward.Proofs.Steward.PartialListings

/-!
# Containment of host errors

With settings that were read from a document, on a host each of whose operations gives a result or raises a host
error, a steward comes to the end of a pass with a report, if all branches that it is shown can be judged
(`runPass_contained`). A refused listing takes away no more than the work on its own runs, and refused open pull
requests
take away the two policies that need them. A branch that cannot be judged ends the pass before anything is asked for
(`runPass_breaks_off`).
-/

namespace RunSteward

open Act

variable {σ : Type}

/-! ## Settings that were read -/

theorem Config.read_workers {homes : Homes} {data : Document.Members} {config : AppConfig}
    (h : read homes data = .ok config) : 1 ≤ config.runtime.workerCount :=
  (read_eq_ok.mp h).sound.runtime.workerCount

namespace Steward

def ofConfig (config : AppConfig) (host : Host σ) (clock : Act σ Stamp) (rehearsal : Bool) : Steward σ :=
  ⟨config, ⟨host, config.governance, clock, rehearsal, config.runtime.workerCount.toNat⟩⟩

theorem of?_of_read {homes : Homes} {data : Document.Members} {config : AppConfig}
    (h : Config.read homes data = .ok config) (host : Host σ) (clock : Act σ Stamp) (rehearsal : Bool) :
    of? config host clock rehearsal = .ok (ofConfig config host clock rehearsal) := by
  have hworkers := Config.read_workers h
  rw [of?, Governor.of?, if_neg (by omega)]
  rfl

/-! ## Passes that end -/

theorem read_ends {st : Steward σ} {P : σ → Prop} (h : st.governor.host.Responds st.governor.settings P) :
    Ends P st.read fun _ => P := by
  obtain ⟨rest, hmilestones, hnotes⟩ := st.governor.host.openMilestones_eq
  have hfirst : Ends P st.activeMilestones fun _ => P := by
    change Ends P st.governor.host.openMilestones _
    rw [hmilestones]
    exact Ends.bind (h.gather .milestones) fun gathered => (hnotes gathered).ends fun _ hw => hw
  refine Ends.bind hfirst fun milestones => ?_
  exact Ends.bind (h.gather .branches) fun gathered => ends_pure fun _ hw => hw

/-- A pass comes to its end with a report, or a branch that was shown cannot be judged. -/
theorem runPass_ends {st : Steward σ} {P : σ → Prop} (h : st.governor.host.Responds st.governor.settings P)
    (hclock : Ends P st.governor.clock fun _ => P) {s : Scope} {d : Desk σ} (hd : P d.world) :
    (∃ report, (st.runPass s d).1 = .ok report) ∨
      ((st.runPass s d).1 = .error (.fault .numeralTooLong) ∧ st.calls s d = [] ∧
        ∃ (m : Found .milestones) (b : Found .branches), st.lookups s d = m.lookups ++ b.lookups ∧
          ∃ x ∈ b.items, (Classifier.ofRepo st.config.repo).isGoverned x.name (m.items.filter Milestone.isOpen) =
            .error .numeralTooLong) := by
  obtain ⟨listed, d₁, hread, hd₁⟩ := read_ends h { s with repo := some st.fullName } d hd
  rcases hjudged : Host.judged (.ofRepo st.config.repo) listed.1 listed.2.1 with f | active
  · obtain ⟨⟨d₂, hend, -⟩, m, b, hopen, hitems, hlookups, hcalls⟩ := runPass_unjudged hread hjudged
    obtain ⟨x, hx, hunjudged⟩ := Host.exists_unjudged hjudged
    obtain rfl := Classifier.isGoverned_fault hunjudged
    rw [hopen] at hunjudged
    rw [hitems] at hx
    exact .inr ⟨congrArg Prod.fst hend, hcalls, m, b, hlookups, x, hx, hunjudged⟩
  · obtain ⟨rest, heq, hsettles⟩ := st.activeBranches_eq
    obtain ⟨log, hrest⟩ := hsettles listed { s with repo := some st.fullName } d₁
    rw [hjudged] at hrest
    have hactive : st.activeBranches { s with repo := some st.fullName } d = (.ok active, { d₁ with log := log }) := by
      rw [heq, bind_of_ok _ hread, hrest]
      rfl
    obtain ⟨report, d₂, hend, -⟩ :=
      Governor.runPass_ends h hclock active { s with repo := some st.fullName } { d₁ with log := log } hd₁
    refine .inl ⟨report, ?_⟩
    change ((st.activeBranches >>= st.governor.runPass) { s with repo := some st.fullName } d).1 = _
    rw [bind_of_ok _ hactive, hend]

/-! ## Refusals that are forgiven -/

def lenient (st : Steward σ) (listings : RunFilter → Bool) (pages : Int → Bool) : Steward σ :=
  ⟨st.config, st.governor.lenient listings pages⟩

theorem runPass_lenient {st : Steward σ} (h : st.governor.Blind) (listings : RunFilter → Bool) (pages : Int → Bool) :
    Alike Desk.SameWorld st.runPass (st.lenient listings pages).runPass := by
  have hrecord : ∀ level logger message,
      Alike Desk.SameWorld (record level logger message : Act σ Unit) (record level logger message) :=
    Governor.record_blind
  have hshown : ∀ cursor, Alike Desk.SameWorld (st.governor.host.page .branches cursor)
      ((st.governor.lenient listings pages).host.page .branches cursor) := h.page .branches
  have hmilestones : Alike Desk.SameWorld st.governor.host.openMilestones
      (st.governor.lenient listings pages).host.openMilestones :=
    Host.openMilestones_alike (by rfl) hrecord (h.page .milestones)
  have hbranches : ∀ milestones, Alike Desk.SameWorld
      (st.governor.host.activeBranches (.ofRepo st.config.repo) milestones)
      ((st.governor.lenient listings pages).host.activeBranches (.ofRepo st.config.repo) milestones) :=
    fun milestones => Host.activeBranches_alike (by rfl) hrecord hshown _ milestones
  have hbody : Alike Desk.SameWorld (st.activeBranches >>= st.governor.runPass)
      ((st.lenient listings pages).activeBranches >>= (st.governor.lenient listings pages).runPass) :=
    Alike.bind (Alike.bind hmilestones hbranches) fun branches => Governor.runPass_lenient h branches
  exact Paired.within (fun s => { s with repo := some st.fullName }) hbody

end Steward

/-! ## What a survey asks for -/

theorem Walk.runsPage_not_mem {listing : Listing} {cursor : Option Cursor} {lookups : List Lookup}
    {items : List listing.Item} {error : Option HostError} (h : Walk listing cursor lookups items error)
    (number size : Int) (answer : Except Failure (List WorkflowRun)) : .runsPage number size answer ∉ lookups := by
  induction h with
  | refused => simp
  | last => simp
  | further _ _ _ _ ih => simpa using ih

namespace Survey

variable {settings : GovernanceSettings} {branches : List Branch} (v : Survey settings branches)

/-- The orders of the policies that need no open pull requests. -/
def ordersBesidePulls : List Order :=
  [v.onBranches.flatMap fun b => Order.ofDuplicates b.2.work, Order.ofDuplicates v.queued.work,
    v.pages.flatMap fun p => p.work.flatMap (Order.ofExpiry settings v.now),
    Order.ofCancelled v.cancelled.work].flatten

variable {v}

/-- Where the open pull requests are refused, the runs of pull requests are not listed, and the orders are those of
the policies that need no pull requests. -/
theorem orders_of_refused (h : v.pulls.all? = none) : v.prunable = none ∧ v.orders = v.ordersBesidePulls := by
  have hprunable : v.prunable.isSome = false := by
    rw [v.prunable_isSome, h]
    rfl
  refine ⟨by simpa using hprunable, ?_⟩
  simp [orders, ordersBesidePulls, h]

theorem number_of_lookup {number size : Int} {answer : Except Failure (List WorkflowRun)}
    (h : .runsPage number size answer ∈ v.lookups) : 1 ≤ number ∧ number ≤ settings.retentionPageCount := by
  have hscan : ∃ p ∈ v.pages, p.number = number := by
    simp only [lookups, List.flatten_cons, List.flatten_nil, List.append_nil, List.mem_append] at h
    rcases h with h | h | h | h | h | h | h
    · obtain ⟨b, -, hb⟩ := List.mem_flatMap.mp h
      exact absurd hb (b.2.walk.runsPage_not_mem _ _ _)
    · exact absurd h (v.queued.walk.runsPage_not_mem _ _ _)
    · exact absurd h (v.pulls.walk.runsPage_not_mem _ _ _)
    · simp at h
    · obtain ⟨p, hp, hlookup⟩ := List.mem_map.mp h
      cases hlookup
      exact ⟨p, hp, rfl⟩
    · exact absurd h (v.cancelled.walk.runsPage_not_mem _ _ _)
    · rcases hprunable : v.prunable with _ | f
      · simp [hprunable] at h
      · rw [hprunable] at h
        exact absurd h (f.walk.runsPage_not_mem _ _ _)
  obtain ⟨p, hp, rfl⟩ := hscan
  have hmem : p.number ∈ pagesDown settings.retentionPageCount.toNat := by
    rw [← v.pages_number]
    exact List.mem_map_of_mem hp
  obtain ⟨hlow, hhigh⟩ := mem_pagesDown.mp hmem
  exact ⟨hlow, by omega⟩

end Survey

/-! ## Containment -/

namespace Steward

/-- **Host errors are contained**: whatever a host refuses, a pass gives a report, if all branches that are shown can be
judged by the open milestones that are shown. Its lookups are those of a survey in which each listing was asked for, and
the
orders that it obeys are those of the survey; where the open pull requests are refused, these are the orders of the
three
other policies. If some branch cannot be judged, because a numeral has too many digits, the pass breaks off before it
asks
for anything but the two listings. All pages of runs that it asks for are within the retention scan. In either case a
pass on the host as it would be if it showed nothing in place of refusals, of any of the listings and pages of runs,
does
the same and ends in the same way. -/
theorem runPass_contained {homes : Homes} {data : Document.Members} {config : AppConfig}
    (hconfig : Config.read homes data = .ok config) (host : Host σ) (clock : Act σ Stamp) (rehearsal : Bool)
    (P : σ → Prop) (hhost : host.Responds config.governance P) (hclock : Ends P clock fun _ => P)
    (hblind : (⟨host, config.governance, clock, rehearsal, config.runtime.workerCount.toNat⟩ : Governor σ).Blind)
    (s : Scope) (d : Desk σ) (hd : P d.world) :
    ∃ st result d', of? config host clock rehearsal = .ok st ∧ st.runPass s d = (result, d') ∧
      (∃ (m : Found .milestones) (b : Found .branches),
        ((∀ x ∈ b.items, ((Classifier.ofRepo config.repo).isGoverned x.name (m.items.filter Milestone.isOpen)).isOk) ∧
          ∃ (v : Survey st.governor.settings (st.governed m.items b.items)) (l : Ledger),
            result = .ok l.report ∧ st.lookups s d = m.lookups ++ b.lookups ++ v.lookups ∧
              Obeyed rehearsal {} v.orders l (st.calls s d) ∧
              (v.pulls.all? = none → v.prunable = none ∧ v.orders = v.ordersBesidePulls)) ∨
        ((∃ x ∈ b.items, (Classifier.ofRepo config.repo).isGoverned x.name (m.items.filter Milestone.isOpen) =
            .error .numeralTooLong) ∧
          result = .error (.fault .numeralTooLong) ∧ st.lookups s d = m.lookups ++ b.lookups ∧ st.calls s d = [])) ∧
      (∀ number size answer, .runsPage number size answer ∈ st.lookups s d →
        1 ≤ number ∧ number ≤ config.governance.retentionPageCount) ∧
      ∀ listings pages, ∃ e', (st.lenient listings pages).runPass s d = (result, e') ∧ e'.world = d'.world := by
  let st := ofConfig config host clock rehearsal
  have hlenient : ∀ listings pages, ∃ e',
      (st.lenient listings pages).runPass s d = ((st.runPass s d).1, e') ∧ e'.world = (st.runPass s d).2.world := by
    intro listings pages
    have halike : Alike Desk.SameWorld st.runPass (st.lenient listings pages).runPass :=
      runPass_lenient hblind listings pages
    obtain ⟨hresult, hworld⟩ := halike.same (s := s) (show d.SameWorld d from rfl)
    exact ⟨((st.lenient listings pages).runPass s d).2, Prod.ext hresult.symm rfl, hworld.symm⟩
  refine ⟨st, _, _, of?_of_read hconfig host clock rehearsal, rfl, ?_⟩
  have hends : (∃ report, (st.runPass s d).1 = .ok report) ∨ _ := runPass_ends hhost hclock hd
  rcases hends with ⟨report, hreport⟩ | ⟨hbroken, hcalls, m, b, hlookups, hunjudged⟩
  · obtain ⟨m, b, v, l, hall, hlookups, hobeyed, rfl⟩ := runPass_surveyed hreport
    refine ⟨⟨m, b, .inl ⟨hall, v, l, hreport, hlookups, hobeyed, v.orders_of_refused⟩⟩, ?_, hlenient⟩
    intro number size answer hmem
    rw [hlookups, List.mem_append, List.mem_append] at hmem
    rcases hmem with (hmem | hmem) | hmem
    · exact absurd hmem (m.walk.runsPage_not_mem _ _ _)
    · exact absurd hmem (b.walk.runsPage_not_mem _ _ _)
    · exact v.number_of_lookup hmem
  · refine ⟨⟨m, b, .inr ⟨hunjudged, hbroken, hlookups, hcalls⟩⟩, ?_, hlenient⟩
    intro number size answer hmem
    rw [hlookups, List.mem_append] at hmem
    rcases hmem with hmem | hmem
    · exact absurd hmem (m.walk.runsPage_not_mem _ _ _)
    · exact absurd hmem (b.walk.runsPage_not_mem _ _ _)

/-! ### A host with outages -/

def outageDocument : Document.Members :=
  [("runtime", .table [("base_dir", .text "/srv")]),
    ("repo", .table [("owner", .text "o"), ("name", .text "r")]),
    ("governance", .table [("trusted_committers", .list [.text "alice"]), ("retention_page_count", .whole 1)])]

def outageConfig : AppConfig where
  runtime := { baseDir := DirPath.read "/srv" }
  repo := { owner := "o", name := "r" }
  governance := { trustedCommitters := ["alice"], retentionPageCount := 1 }

/-- The answer to the request for a page of a listing: the open pull requests and the cancelled runs are refused. -/
def outagePage (listing : Listing) (S : RunStore) : Except HostError (Page listing.Item) :=
  match listing with
  | .branches => .ok ⟨[⟨"main", ""⟩], none⟩
  | .pullRequests => .error ⟨.transient, "down"⟩
  | .runs f => if f = .cancelled then .error ⟨.rateLimit, "down"⟩ else .ok ⟨S.listed f, none⟩
  | .milestones | .labels | .files _ | .commits _ | .comments _ | .statuses _ => .ok ⟨[], none⟩

def outageHost : Host RunStore :=
  { RunStore.host RunStore.answer with
    page := fun listing _ => outside (fun S => (outagePage listing S, S)) >>= orRefuse }

theorem outageHost_page (listing : Listing) (cursor : Option Cursor) (s : Scope) (d : Desk RunStore) :
    outageHost.page listing cursor s d = ((outagePage listing d.world).mapError Failure.host, d) := by
  have hasked : outside (fun S => (outagePage listing S, S)) s d = (.ok (outagePage listing d.world), d) := rfl
  change (outside (fun S => (outagePage listing S, S)) >>= orRefuse) s d = _
  rw [bind_of_ok _ hasked]
  cases outagePage listing d.world <;> rfl

theorem outagePage_next {listing : Listing} {S : RunStore} {page : Page listing.Item}
    (h : outagePage listing S = .ok page) : page.next = none := by
  unfold outagePage at h
  split at h
  · obtain rfl := Except.ok.inj h
    rfl
  · cases h
  · split at h
    · cases h
    · obtain rfl := Except.ok.inj h
      rfl
  all_goals
    obtain rfl := Except.ok.inj h
    rfl

theorem answer_datable {settings : GovernanceSettings} {S : RunStore} (h : ∀ r ∈ S.runs, r.Datable settings)
    (kind : ActionKind) (i : Int) : ∀ r ∈ (RunStore.answer kind i S).2.runs, r.Datable settings := by
  intro r hr
  rcases hrun : S.run? i with _ | x
  · have hsame : (RunStore.answer kind i S).2 = S := by
      cases kind <;> simp [RunStore.answer, hrun]
    exact h r (hsame ▸ hr)
  · cases kind with
    | remove =>
      have hremoved : r ∈ S.runs.filter fun r => r.id != i := by
        simpa [RunStore.answer, hrun, RunStore.remove] using hr
      exact h r (List.mem_of_mem_filter hremoved)
    | cancel =>
      by_cases hactive : x.isActive = true
      · have hcancelled : r ∈ S.runs.map fun r => if r.id = i then r.asCancelled else r := by
          simpa [RunStore.answer, hrun, hactive, RunStore.cancel] using hr
        obtain ⟨q, hq, rfl⟩ := List.mem_map.mp hcancelled
        have hdatable := h q hq
        split
        · exact hdatable
        · exact hdatable
      · have hsame : r ∈ S.runs := by simpa [RunStore.answer, hrun, hactive] using hr
        exact h r hsame

theorem outageHost_responds (settings : GovernanceSettings) :
    outageHost.Responds settings fun S => ∀ r ∈ S.runs, r.Datable settings where
  page listing cursor s d hd := ⟨_, d, outageHost_page listing cursor s d, hd⟩
  finite listing s d _ := by
    change (outageHost.gatherFrom listing 1 none s d).1 ≠ _
    rw [Host.gatherFrom, bind_of_ok _ (attempt_eq_ok.mpr (outageHost_page listing none s d))]
    rcases hanswer : outagePage listing d.world with e | ⟨items, next⟩
    · simp
    · obtain rfl : next = none := outagePage_next hanswer
      simp
  runsPage number _ s d hd := by
    refine ⟨.ok (d.world.block number), d, rfl, hd, fun r hr => ?_⟩
    have hmem : r ∈ d.world.block number := hr
    exact hd r (List.mem_of_mem_drop (List.mem_of_mem_take hmem))
  cancelRun r s d hd :=
    ⟨_, _, RunStore.request_apply (RunStore.answer .cancel) r s d, answer_datable hd .cancel r.id⟩
  removeRun r s d hd :=
    ⟨_, _, RunStore.request_apply (RunStore.answer .remove) r s d, answer_datable hd .remove r.id⟩

theorem outageHost_blind (settings : GovernanceSettings) (rehearsal : Bool) (workers : Nat) :
    (⟨outageHost, settings, pure default, rehearsal, workers⟩ : Governor RunStore).Blind where
  page listing cursor := by
    refine alike_of_same fun s d e hsame => ?_
    have hworld : d.world = e.world := hsame
    rw [outageHost_page, outageHost_page, hworld]
    exact ⟨rfl, hsame⟩
  runsPage number size := by
    intro s d e hsame
    have hworld : d.world = e.world := hsame
    refine .result ⟨?_, hsame⟩
    rw [hworld]
  request kind r := by
    have hrequest : ∀ respond : Int → RunStore → Except HostError Unit × RunStore,
        (RunStore.request respond r).Blind := by
      intro respond
      refine alike_of_same fun s d e hsame => ?_
      have hworld : d.world = e.world := hsame
      rw [RunStore.request_apply, RunStore.request_apply]
      simp [Desk.SameWorld, hworld]
    cases kind with
    | cancel => exact hrequest _
    | remove => exact hrequest _
  clock := alike_pure default

/-- In spite of the outages the queued duplicate is cancelled, and nothing else is done. -/
theorem runPass_contained_outage :
    Config.read (fun _ => none) outageDocument = .ok outageConfig ∧
      ∃ st d', of? outageConfig outageHost (pure default) false = .ok st ∧
        st.runPass {} Governor.mixedDesk =
          (.ok ⟨[⟨.duplicateQueued, .cancel, 4, "build", "main", "superseded_by_newer_run", .done⟩]⟩, d') ∧
        ∀ listings pages, ∃ e', (st.lenient listings pages).runPass {} Governor.mixedDesk =
          (.ok ⟨[⟨.duplicateQueued, .cancel, 4, "build", "main", "superseded_by_newer_run", .done⟩]⟩, e') ∧
          e'.world = d'.world := by
  have hconfig : Config.read (fun _ => none) outageDocument = .ok outageConfig := by rfl
  have hclock : Ends (fun S : RunStore => ∀ r ∈ S.runs, r.Datable outageConfig.governance)
      (pure default : Act RunStore Stamp) fun _ S => ∀ r ∈ S.runs, r.Datable outageConfig.governance :=
    ends_pure fun _ hw => hw
  obtain ⟨st, result, d', hst, hend, -, -, hlenient⟩ := runPass_contained hconfig outageHost (pure default) false
    (fun S => ∀ r ∈ S.runs, r.Datable outageConfig.governance) (outageHost_responds _) hclock
    (outageHost_blind _ false _) {} Governor.mixedDesk (by decide +kernel)
  have hreport : ((ofConfig outageConfig outageHost (pure default) false).runPass {} Governor.mixedDesk).1 =
      .ok ⟨[⟨.duplicateQueued, .cancel, 4, "build", "main", "superseded_by_newer_run", .done⟩]⟩ := by
    decide +kernel
  have hsteward : st = ofConfig outageConfig outageHost (pure default) false :=
    Except.ok.inj (hst.symm.trans (of?_of_read hconfig _ _ _))
  rw [← hsteward, hend] at hreport
  subst hreport
  exact ⟨hconfig, st, d', hst, hend, hlenient⟩

/-! ### A title that is too long -/

def plainDocument : Document.Members :=
  [("runtime", .table [("base_dir", .text "/srv")]),
    ("repo", .table [("owner", .text "o"), ("name", .text "r")]),
    ("governance", .table [("trusted_committers", .list [.text "alice"])])]

theorem jammed_responds (settings : GovernanceSettings) : jammed.host.Responds settings fun _ => True where
  page listing cursor s d _ := by
    refine ⟨Host.laidOut
      (planPages [.ok [⟨1, Version.longTitle, "open", none⟩]] [.ok [⟨"master", ""⟩, ⟨"1.0.x", ""⟩]] listing)
      cursor, d, ?_, trivial⟩
    change orRefuse (Host.laidOut _ cursor) s d = _
    cases Host.laidOut (planPages _ _ listing) cursor <;> rfl
  finite listing s d _ := by
    cases listing <;> exact nofun
  runsPage _ _ _ d _ := ⟨.ok [], d, rfl, trivial, nofun⟩
  cancelRun _ _ d _ := ⟨.ok (), d, rfl, trivial⟩
  removeRun _ _ d _ := ⟨.ok (), d, rfl, trivial⟩

/-- A pass breaks off because of an open milestone with an overlong title, though the host refuses nothing. -/
theorem runPass_breaks_off :
    Config.read (fun _ => none) plainDocument = .ok plainConfig ∧
      jammed.host.Responds plainConfig.governance (fun _ => True) ∧
      of? plainConfig jammed.host (pure default) false = .ok jammed ∧
      (jammed.runPass {} ⟨(), #[]⟩).1 = .error (.fault .numeralTooLong) := by
  have hconfig : Config.read (fun _ => none) plainDocument = .ok plainConfig := by rfl
  obtain ⟨-, hbroken⟩ := jammed_lists { repo := some jammed.fullName } ⟨(), #[]⟩
  rcases hactive : jammed.activeBranches { repo := some jammed.fullName } ⟨(), #[]⟩ with ⟨result, d⟩
  obtain rfl : result = _ := by simpa only [hactive] using hbroken
  refine ⟨hconfig, jammed_responds _, of?_of_read hconfig jammed.host (pure default) false, ?_⟩
  rw [runPass_of_unlisted (s := {}) hactive]

end Steward

end RunSteward
