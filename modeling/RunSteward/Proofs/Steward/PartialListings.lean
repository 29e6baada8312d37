import Mathlib.Data.List.Basic
import RunSteward.Proofs.Branches.Governed
import RunSteward.Proofs.Steward.Watched

/-!
# Listings that break off

The listings of milestones and branches may both break off at any page. What came before counts
(`active_despite_refusals`): the open ones among the milestones, and the branches that are governed by these. With fewer
milestones fewer branches are governed (`Classifier.isGoverned_mono`), so a refused page never makes a branch active.
Nor
does it keep branches from being judged that can be judged with all pages.
-/

namespace RunSteward

open Act Host Fetch

variable {σ τ : Type} {k : Classifier} {milestones milestones' : List Milestone} {branches branches' active' : List Branch}
  {v : Version}

/-! ## Fewer milestones -/

/-- Where the search on a list comes to an end, it does so on the front of the list, and finds nothing else there. -/
theorem firstOnLine_front {result' : Option Milestone} (hfront : milestones <+: milestones')
    (h : firstOnLine v milestones' = .ok result') :
    ∃ result, firstOnLine v milestones = .ok result ∧ (result.isSome = true → result'.isSome = true) := by
  rcases hresult : firstOnLine v milestones with f | result
  · obtain ⟨rfl, front, m, back, rfl, hlong, hnone⟩ := firstOnLine_eq_error_iff.mp hresult
    obtain ⟨more, rfl⟩ := hfront
    have hjammed : firstOnLine v (front ++ m :: back ++ more) = .error .numeralTooLong :=
      firstOnLine_eq_error_iff.mpr ⟨rfl, front, m, back ++ more, by simp, hlong, hnone⟩
    cases hjammed.symm.trans h
  · refine ⟨result, rfl, fun hsome => (isSome_firstOnLine h).mpr ?_⟩
    obtain ⟨m, hm, w, hplans⟩ := (isSome_firstOnLine hresult).mp hsome
    exact ⟨m, hfront.subset hm, w, hplans⟩

theorem Classifier.isGoverned_mono {name : String} {g' : Bool} (hfront : milestones <+: milestones')
    (h : k.isGoverned name milestones' = .ok g') :
    ∃ g, k.isGoverned name milestones = .ok g ∧ (g = true → g' = true) := by
  unfold isGoverned at h ⊢
  cases hclass : k.classify name <;> rw [hclass] at h <;> dsimp only at h ⊢
  case milestone =>
    rw [milestoneForBranch] at h ⊢
    rcases hwindow : branchWindow name with f | _ | window <;> rw [hwindow] at h
    · cases h
    · exact ⟨false, rfl, fun h => absurd h Bool.false_ne_true⟩
    · rcases hresult' : firstOnLine window milestones' with f | result'
      · change Except.map Option.isSome (firstOnLine window milestones') = .ok g' at h
        rw [hresult'] at h
        cases h
      · change Except.map Option.isSome (firstOnLine window milestones') = .ok g' at h
        rw [hresult'] at h
        obtain rfl : result'.isSome = g' := Except.ok.inj h
        obtain ⟨result, hresult, hsome⟩ := firstOnLine_front hfront hresult'
        refine ⟨result.isSome, ?_, hsome⟩
        change Except.map Option.isSome (firstOnLine window milestones) = _
        rw [hresult]
        rfl
  all_goals exact ⟨g', h, id⟩

theorem judged_front (hmilestones : milestones <+: milestones') (hbranches : branches <+: branches')
    (h : judged k milestones' branches' = .ok active') :
    ∃ active, judged k milestones branches = .ok active ∧ active.Sublist active' := by
  obtain ⟨more, rfl⟩ := hbranches
  induction branches generalizing active' with
  | nil => exact ⟨[], rfl, List.nil_sublist _⟩
  | cons b branches ih =>
    rw [List.cons_append, judged] at h
    rcases hjudge' : k.isGoverned b.name milestones' with f | g' <;> rw [hjudge'] at h
    · cases h
    rcases hrest' : judged k milestones' (branches ++ more) with f | rest' <;> rw [hrest'] at h
    · cases h
    obtain ⟨g, hjudge, himp⟩ := Classifier.isGoverned_mono hmilestones hjudge'
    obtain ⟨rest, hrest, hsublist⟩ := ih hrest'
    obtain rfl : (if g' then b :: rest' else rest') = active' := Except.ok.inj h
    refine ⟨if g then b :: rest else rest, by rw [judged, hjudge, hrest]; rfl, ?_⟩
    cases g with
    | true => simpa [himp rfl] using hsublist
    | false =>
      cases g' with
      | true => exact hsublist.trans (List.sublist_cons_self _ _)
      | false => exact hsublist

/-! ## Fewer pages -/

theorem listed_front {l : Listing} {fetches : List (Fetch σ l)} {fetches' : List (Fetch τ l)}
    (h : shown fetches <+: shown fetches') : listed fetches <+: listed fetches' := by
  obtain ⟨more, hmore⟩ := h
  rw [listed_eq, listed_eq, ← hmore, List.flatten_append]
  exact List.prefix_append _ _

namespace Steward

variable {st : Steward σ} {s : Scope} {d d' : Desk σ} {milestonePages : List (Fetch σ .milestones)}
  {branchPages : List (Fetch σ .branches)} {error error' : Option HostError}

theorem activeMilestones_of_shows (h : st.host.Shows .milestones s d milestonePages error) :
    (st.activeMilestones s d).1 = .ok ((listed milestonePages).filter Milestone.isOpen) := by
  obtain ⟨rest, heq, hnotes⟩ := st.host.openMilestones_eq
  obtain ⟨log, hrest⟩ := hnotes (listed milestonePages, error) s (reached d milestonePages)
  rw [activeMilestones, heq, bind_of_ok _ h.gather, hrest]

theorem branchesUnder_of_shows (h : st.host.Shows .branches s d branchPages error) (milestones : List Milestone) :
    (st.branchesUnder milestones s d).1 =
      (judged (.ofRepo st.config.repo) milestones (listed branchPages)).mapError .fault := by
  obtain ⟨rest, heq, hsettles⟩ := st.host.activeBranches_eq (.ofRepo st.config.repo) milestones
  obtain ⟨log, hrest⟩ := hsettles (listed branchPages, error) s (reached d branchPages)
  rw [branchesUnder, heq, bind_of_ok _ h.gather, hrest]

theorem activeBranches_of_shows (hmilestones : st.host.Shows .milestones s d milestonePages error)
    (hbranches : st.host.Shows .branches s (st.activeMilestones s d).2 branchPages error') :
    (st.activeBranches s d).1 = (judged (.ofRepo st.config.repo) ((listed milestonePages).filter Milestone.isOpen)
      (listed branchPages)).mapError .fault := by
  have hopen : st.activeMilestones s d = (.ok ((listed milestonePages).filter Milestone.isOpen), _) :=
    Prod.ext (activeMilestones_of_shows hmilestones) rfl
  rw [activeBranches, bind_of_ok _ hopen]
  exact branchesUnder_of_shows hbranches _

/-- **Refused pages make nothing active.** Whatever pages a host shows of its milestones and branches before it refuses
one, the open milestones are those on the pages that came. The active branches are those that came and are governed by
these milestones, if all that came can be judged; otherwise the listing breaks off over a numeral that is too long.
Wherever the same repository is listed without a refusal, more pages come, and all branches can be judged, those that
were shown before could be judged, too, and those that were active are active, in the same order. -/
theorem active_despite_refusals (st : Steward σ)
    (hmilestones : st.host.Shows .milestones s d milestonePages error)
    (hbranches : st.host.Shows .branches s (st.activeMilestones s d).2 branchPages error') :
    (st.activeMilestones s d).1 = .ok ((shown milestonePages).flatten.filter Milestone.isOpen) ∧
      (∀ active, (st.activeBranches s d).1 = .ok active ↔
        (∀ b ∈ (shown branchPages).flatten, ((Classifier.ofRepo st.config.repo).isGoverned b.name
          ((shown milestonePages).flatten.filter Milestone.isOpen)).isOk) ∧
        active = st.governed (shown milestonePages).flatten (shown branchPages).flatten) ∧
      (∀ f, (st.activeBranches s d).1 = .error f → f = .fault .numeralTooLong ∧
        ∃ b ∈ (shown branchPages).flatten, (Classifier.ofRepo st.config.repo).isGoverned b.name
          ((shown milestonePages).flatten.filter Milestone.isOpen) = .error .numeralTooLong) ∧
      ∀ (τ : Type) (whole : Steward τ) (s' : Scope) (e : Desk τ) (milestonePages' : List (Fetch τ .milestones))
        (branchPages' : List (Fetch τ .branches)) (active' : List Branch), whole.config.repo = st.config.repo →
        whole.host.Shows .milestones s' e milestonePages' none →
        whole.host.Shows .branches s' (whole.activeMilestones s' e).2 branchPages' none →
        shown milestonePages <+: shown milestonePages' → shown branchPages <+: shown branchPages' →
        (whole.activeBranches s' e).1 = .ok active' →
        ∃ active, (st.activeBranches s d).1 = .ok active ∧ active.Sublist active' := by
  have hactive := activeBranches_of_shows hmilestones hbranches
  rw [← listed_eq, ← listed_eq]
  refine ⟨activeMilestones_of_shows hmilestones, fun active => ?_, fun f hf => ?_, ?_⟩
  · refine Iff.trans ?_ judged_eq_ok_iff
    rw [hactive]
    cases judged (.ofRepo st.config.repo) ((listed milestonePages).filter Milestone.isOpen) (listed branchPages) <;>
      simp [Except.mapError]
  · rcases hjudged : judged (.ofRepo st.config.repo) ((listed milestonePages).filter Milestone.isOpen)
      (listed branchPages) with f' | active <;> rw [hactive, hjudged] at hf
    · obtain rfl : .fault f' = f := Except.error.inj hf
      obtain ⟨b, hb, hunjudged⟩ := exists_unjudged hjudged
      obtain rfl := Classifier.isGoverned_fault hunjudged
      exact ⟨rfl, b, hb, hunjudged⟩
    · cases hf
  · intro τ whole s' e milestonePages' branchPages' active' hrepo hmilestones' hbranches' hfront hfront' hwhole
    rw [activeBranches_of_shows hmilestones' hbranches', hrepo] at hwhole
    rcases hjudged' : judged (.ofRepo st.config.repo) ((listed milestonePages').filter Milestone.isOpen)
      (listed branchPages') with f | active <;> rw [hjudged'] at hwhole
    · cases hwhole
    · obtain rfl : active = active' := Except.ok.inj hwhole
      obtain ⟨active, hjudged, hsublist⟩ :=
        judged_front ((listed_front hfront).filter _) (listed_front hfront') hjudged'
      exact ⟨active, by rw [hactive, hjudged]; rfl, hsublist⟩

/-- Pages of milestones and branches that are laid out. -/
def planPages (milestones : List (Except HostError (List Milestone)))
    (branches : List (Except HostError (List Branch))) : ∀ l : Listing, List (Except HostError (List l.Item))
  | .milestones => milestones
  | .branches => branches
  | .labels | .pullRequests | .files _ | .commits _ | .comments _ | .statuses _ | .runs _ => []

def plainConfig : AppConfig where
  runtime := { baseDir := DirPath.read "/srv" }
  repo := { owner := "o", name := "r" }
  governance := { trustedCommitters := ["alice"] }

/-- A steward of a host with such pages. -/
def ofPages (milestones : List (Except HostError (List Milestone))) (branches : List (Except HostError (List Branch))) :
    Steward Unit :=
  ⟨plainConfig, ⟨Host.ofPages (planPages milestones branches), plainConfig.governance, pure default, false,
    plainConfig.runtime.workerCount.toNat⟩⟩

theorem ofPages_shows {milestones : List (Except HostError (List Milestone))}
    {branches : List (Except HostError (List Branch))} (hmilestones : milestones ≠ [] ∧ milestones.length ≤ 8)
    (hbranches : branches ≠ [] ∧ branches.length ≤ 8) (s : Scope) (d : Desk Unit) :
    ∃ milestonePages branchPages,
      (ofPages milestones branches).host.Shows .milestones s d milestonePages (outcome milestones).2 ∧
      (ofPages milestones branches).host.Shows .branches s ((ofPages milestones branches).activeMilestones s d).2
        branchPages (outcome branches).2 ∧
      shown milestonePages = (outcome milestones).1 ∧ shown branchPages = (outcome branches).1 := by
  obtain ⟨milestonePages, hshows, hshown⟩ :=
    Host.ofPages_shows (planPages milestones branches) .milestones hmilestones.1 hmilestones.2 s d
  obtain ⟨branchPages, hshows', hshown'⟩ := Host.ofPages_shows (planPages milestones branches) .branches hbranches.1
    hbranches.2 s ((ofPages milestones branches).activeMilestones s d).2
  exact ⟨milestonePages, branchPages, hshows, hshows', hshown, hshown'⟩

def brokenOff : Steward Unit :=
  ofPages [.ok [⟨1, "6.5.0", "open", none⟩, ⟨2, "6.6.0", "closed", none⟩], .error ⟨.transient, "down"⟩]
    [.ok [⟨"master", ""⟩, ⟨"6.5.x", ""⟩], .ok [⟨"6.4.x", ""⟩], .error ⟨.rateLimit, "down"⟩]

def allListed : Steward Unit :=
  ofPages [.ok [⟨1, "6.5.0", "open", none⟩, ⟨2, "6.6.0", "closed", none⟩], .ok [⟨3, "6.4.9", "open", none⟩]]
    [.ok [⟨"master", ""⟩, ⟨"6.5.x", ""⟩], .ok [⟨"6.4.x", ""⟩], .ok [⟨"gh-pages", ""⟩]]

/-- With a page of milestones and a page of branches missing, a maintenance branch is not active. -/
theorem active_despite_refusals_brokenOff :
    (brokenOff.activeMilestones {} ⟨(), #[]⟩).1 = .ok [⟨1, "6.5.0", "open", none⟩] ∧
      (brokenOff.activeBranches {} ⟨(), #[]⟩).1 = .ok [⟨"master", ""⟩, ⟨"6.5.x", ""⟩] ∧
      ∃ active active', (brokenOff.activeBranches {} ⟨(), #[]⟩).1 = .ok active ∧
        (allListed.activeBranches {} ⟨(), #[]⟩).1 = .ok active' ∧ active.Sublist active' := by
  obtain ⟨milestonePages, branchPages, hmilestones, hbranches, hshown, hshown'⟩ :
      ∃ milestonePages branchPages, brokenOff.host.Shows .milestones {} ⟨(), #[]⟩ milestonePages _ ∧
        brokenOff.host.Shows .branches {} (brokenOff.activeMilestones {} ⟨(), #[]⟩).2 branchPages _ ∧ _ :=
    ofPages_shows (by decide) (by decide) {} ⟨(), #[]⟩
  obtain ⟨allMilestones, allBranches, hall, hall', hcame, hcame'⟩ :
      ∃ allMilestones allBranches, allListed.host.Shows .milestones {} ⟨(), #[]⟩ allMilestones none ∧
        allListed.host.Shows .branches {} (allListed.activeMilestones {} ⟨(), #[]⟩).2 allBranches none ∧ _ :=
    ofPages_shows (by decide) (by decide) {} ⟨(), #[]⟩
  obtain ⟨hopen, hactive, -, hfewer⟩ := active_despite_refusals brokenOff hmilestones hbranches
  have hlisted : (brokenOff.activeBranches {} ⟨(), #[]⟩).1 = .ok [⟨"master", ""⟩, ⟨"6.5.x", ""⟩] := by
    refine (hactive _).mpr ?_
    rw [hshown, hshown']
    exact ⟨by decide +kernel, by decide +kernel⟩
  obtain ⟨active', hwhole⟩ : ∃ active', (allListed.activeBranches {} ⟨(), #[]⟩).1 = .ok active' := by
    obtain ⟨-, hactive', -⟩ := active_despite_refusals allListed hall hall'
    refine ⟨_, (hactive' _).mpr ⟨?_, rfl⟩⟩
    rw [hcame, hcame']
    decide +kernel
  have hless := hfewer Unit allListed {} ⟨(), #[]⟩ allMilestones allBranches active' rfl hall hall'
    (by rw [hshown, hcame]; decide) (by rw [hshown', hcame']; decide) hwhole
  rw [hshown] at hopen
  obtain ⟨active, hactive, hsublist⟩ := hless
  exact ⟨hopen.trans (congrArg _ (by decide)), hlisted, active, active', hactive, hwhole, hsublist⟩

/-- A title in the same listing keeps a branch from being judged. -/
def jammed : Steward Unit :=
  ofPages [.ok [⟨1, Version.longTitle, "open", none⟩]] [.ok [⟨"master", ""⟩, ⟨"1.0.x", ""⟩]]

theorem jammed_lists (s : Scope) (d : Desk Unit) :
    (jammed.activeMilestones s d).1 = .ok [⟨1, Version.longTitle, "open", none⟩] ∧
      (jammed.activeBranches s d).1 = .error (.fault .numeralTooLong) := by
  obtain ⟨milestonePages, branchPages, hmilestones, hbranches, hshown, hshown'⟩ :
      ∃ milestonePages branchPages, jammed.host.Shows .milestones s d milestonePages none ∧
        jammed.host.Shows .branches s (jammed.activeMilestones s d).2 branchPages none ∧ _ :=
    ofPages_shows (by simp) (by simp) s d
  have hopen : (listed milestonePages).filter Milestone.isOpen = [⟨1, Version.longTitle, "open", none⟩] := by
    rw [listed_eq, hshown]
    rfl
  have hlisted : listed branchPages = [⟨"master", ""⟩, ⟨"1.0.x", ""⟩] := by
    rw [listed_eq, hshown']
    rfl
  have hmaster : (Classifier.ofRepo jammed.config.repo).isGoverned "master" [⟨1, Version.longTitle, "open", none⟩] =
      .ok true := Classifier.isGoverned_of_mainline (by unfold SameName; decide +kernel)
  have hline : (Classifier.ofRepo jammed.config.repo).isGoverned "1.0.x" [⟨1, Version.longTitle, "open", none⟩] =
      .error .numeralTooLong := Classifier.isGoverned_longTitle (by unfold SameName; decide +kernel)
  constructor
  · rw [activeMilestones_of_shows hmilestones, hopen]
  · rw [activeBranches_of_shows hmilestones hbranches, hopen, hlisted, judged, hmaster, judged, hline]
    rfl

theorem active_breaks_off :
    (jammed.activeMilestones {} ⟨(), #[]⟩).1 = .ok [⟨1, Version.longTitle, "open", none⟩] ∧
      (jammed.activeBranches {} ⟨(), #[]⟩).1 = .error (.fault .numeralTooLong) :=
  jammed_lists {} ⟨(), #[]⟩

end Steward

end RunSteward
