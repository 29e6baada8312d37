import RunSteward.Proofs.Version.Line

/-!
# Governed branches

The first class that fits a branch decides. The main branch is governed, whatever else its name is; a maintenance branch
is
governed while an open milestone plans a version of its line; any other branch is governed unless it belongs to web
pages
or to a deployment (`Classifier.isGoverned_iff`). The branch of an open milestone leads back to the line of the
milestone,
and so it is governed under any settings (`milestone_branch_returns`). Both are so unless a numeral with too many digits
is
met on the way.
-/

namespace RunSteward

open Text

variable {k : Classifier} {name : String} {l : LineName} {milestones : List Milestone}

/-- Tells that two names are the same, case aside. -/
def SameName (a b : String) : Prop :=
  lower a = lower b

/-- Tells that a name is a deployment name, or one with a slash or a hyphen behind it, case aside. -/
def DeploysAs (name deployment : String) : Prop :=
  SameName name deployment ∨
    ∃ mark ∈ ['/', '-'], ∃ rest, (lower name).toList = (lower deployment).toList ++ mark :: rest

namespace Classifier

theorem isDeploymentOf_iff {name deployment : String} :
    isDeploymentOf (lower name) (lower deployment) = true ↔ DeploysAs name deployment := by
  have hprefix : ∀ mark : Char, ((lower deployment).toList ++ [mark]).isPrefixOf (lower name).toList = true ↔
      ∃ rest, (lower name).toList = (lower deployment).toList ++ mark :: rest := by
    intro mark
    rw [List.isPrefixOf_iff_prefix]
    constructor
    · rintro ⟨rest, hrest⟩
      exact ⟨rest, by rw [← hrest, List.append_assoc, List.singleton_append]⟩
    · rintro ⟨rest, hrest⟩
      exact ⟨rest, by rw [hrest, List.append_assoc, List.singleton_append]⟩
  simp only [isDeploymentOf, Bool.or_eq_true, beq_iff_eq, hprefix, DeploysAs, SameName, List.mem_cons,
    List.not_mem_nil, or_false, exists_eq_or_imp, exists_eq_left, or_assoc]

/-! ## The classes in turn -/

theorem isGoverned_of_mainline (h : SameName (trim name) k.mainlineBranch) :
    k.isGoverned name milestones = .ok true := by
  have hclass : k.classify name = .mainline := by
    rw [classify]
    exact if_pos h
  rw [isGoverned, hclass]

theorem isGoverned_of_line (h : ¬SameName (trim name) k.mainlineBranch) (hname : trimChars name.toList = l.text) :
    k.isGoverned name milestones =
      if l.IsShort then (firstOnLine l.window milestones).map Option.isSome else .error .numeralTooLong := by
  have hclass : k.classify name = .milestone := by
    rw [classify]
    exact (if_neg h).trans (if_pos (isLineBranch_trim.mpr ⟨l, hname⟩))
  rw [isGoverned, hclass]
  dsimp only
  rw [milestoneForBranch_of_name hname]
  split <;> rfl

theorem isGoverned_of_line_ok (h : ¬SameName (trim name) k.mainlineBranch) (hname : trimChars name.toList = l.text)
    {g : Bool} (hg : k.isGoverned name milestones = .ok g) :
    g = true ↔ ∃ m ∈ milestones, ∃ w, m.Plans l.window w := by
  rw [isGoverned_of_line h hname] at hg
  split at hg
  · rcases hfirst : firstOnLine l.window milestones with f | result <;> rw [hfirst] at hg
    · cases hg
    · obtain rfl : result.isSome = g := Except.ok.inj hg
      exact isSome_firstOnLine hfirst
  · cases hg

theorem isGoverned_of_line_error (h : ¬SameName (trim name) k.mainlineBranch) (hname : trimChars name.toList = l.text)
    (f : Fault) : k.isGoverned name milestones = .error f ↔
      f = .numeralTooLong ∧ (l.IsShort → Jammed l.window milestones) := by
  rw [isGoverned_of_line h hname]
  split
  · next hshort =>
    rw [forall_prop_of_true hshort, ← firstOnLine_eq_error_iff]
    rcases firstOnLine l.window milestones with f' | result
    · rw [Except.map, Except.error.injEq, Except.error.injEq]
    · exact iff_of_false (fun h => by cases h) fun h => by cases h
  · next hlong =>
    rw [Except.error.injEq, eq_comm]
    exact (and_iff_left fun hshort => absurd hshort hlong).symm

theorem isGoverned_of_other (h : ¬SameName (trim name) k.mainlineBranch)
    (hname : ∀ l : LineName, trimChars name.toList ≠ l.text) (milestones : List Milestone) :
    ∃ g, k.isGoverned name milestones = .ok g ∧ (g = true ↔ (∀ p ∈ k.pagesBranches, ¬SameName (trim name) p) ∧
      ∀ p ∈ k.deploymentPrefixes, ¬DeploysAs (trim name) p) := by
  have hline : ¬isLineBranch (trim name) = true := fun hline =>
    let ⟨l, hl⟩ := isLineBranch_trim.mp hline
    hname l hl
  have hpages : (k.pagesBranches.any fun p => lower (trim name) == lower p) = true ↔
      ∃ p ∈ k.pagesBranches, SameName (trim name) p := by
    simp [SameName]
  have hdeploys : (k.deploymentPrefixes.any fun p => isDeploymentOf (lower (trim name)) (lower p)) = true ↔
      ∃ p ∈ k.deploymentPrefixes, DeploysAs (trim name) p := by
    simp [isDeploymentOf_iff]
  change ¬lower (trim name) = lower k.mainlineBranch at h
  rw [isGoverned, classify, if_neg h, if_neg hline]
  by_cases hp : ∃ p ∈ k.pagesBranches, SameName (trim name) p
  · rw [if_pos (hpages.mpr hp)]
    obtain ⟨p, hmem, hsame⟩ := hp
    exact ⟨false, rfl, iff_of_false Bool.false_ne_true fun hfree => hfree.1 p hmem hsame⟩
  · rw [if_neg (mt hpages.mp hp)]
    by_cases hd : ∃ p ∈ k.deploymentPrefixes, DeploysAs (trim name) p
    · rw [if_pos (hdeploys.mpr hd)]
      obtain ⟨p, hmem, hdeploy⟩ := hd
      exact ⟨false, rfl, iff_of_false Bool.false_ne_true fun hfree => hfree.2 p hmem hdeploy⟩
    · rw [if_neg (mt hdeploys.mp hd)]
      refine ⟨true, rfl, iff_of_true rfl ⟨?_, ?_⟩⟩
      · exact fun p hmem hsame => hp ⟨p, hmem, hsame⟩
      · exact fun p hmem hdeploy => hd ⟨p, hmem, hdeploy⟩

theorem isGoverned_fault {f : Fault} (h : k.isGoverned name milestones = .error f) : f = .numeralTooLong := by
  unfold isGoverned at h
  cases hclass : k.classify name <;> rw [hclass] at h <;> dsimp only at h
  case milestone =>
    rcases hfound : milestoneForBranch name milestones with f' | result <;> rw [hfound] at h
    · obtain rfl : f' = f := Except.error.inj h
      exact milestoneForBranch_fault hfound
    · cases h
  all_goals cases h

/-- **Which branches are governed.** The main branch is, case aside. A branch that is named by two numerals without
leading
zeros and the letter x behind them is, if an open milestone on the list has a version of just these two numbers for its
title. And a branch of any other name is, if this name is, case aside, none of the branches of web pages, no deployment
name, and no deployment name with a slash or a hyphen behind it. No other branch is governed. Judging a branch ends with
this answer, and changes nothing but the log, unless it breaks off; and it does so exactly for a branch of the second
kind
that is not the main branch, if a numeral of its name is too long, or if an open milestone with an overlong title stands
in
front of all that are planned for the line. -/
theorem isGoverned_iff (k : Classifier) (name : String) (milestones : List Milestone) :
    (∀ g, k.isGoverned name milestones = .ok g → (g = true ↔
      SameName (trim name) k.mainlineBranch ∨
      (∃ l : LineName, (trim name).toList = l.text ∧ ∃ m ∈ milestones, m.isOpen = true ∧
        ∃ v, Version.read m.title = .ok (some v) ∧ v.major = l.major.value ∧ v.minor = l.minor.value) ∨
      ((∀ l : LineName, (trim name).toList ≠ l.text) ∧ (∀ p ∈ k.pagesBranches, ¬SameName (trim name) p) ∧
        ∀ p ∈ k.deploymentPrefixes, ¬DeploysAs (trim name) p))) ∧
    (∀ f, k.isGoverned name milestones = .error f ↔ f = .numeralTooLong ∧ ¬SameName (trim name) k.mainlineBranch ∧
      ∃ l : LineName, (trim name).toList = l.text ∧ (l.IsShort → Jammed l.window milestones)) ∧
    ∀ (σ : Type) (sha : String),
      Act.Settles (Host.judge k milestones ⟨name, sha⟩ : Act σ Bool) (k.isGoverned name milestones) := by
  have hplanned : ∀ l : LineName, (∃ m ∈ milestones, m.isOpen = true ∧
      ∃ v, Version.read m.title = .ok (some v) ∧ v.major = l.major.value ∧ v.minor = l.minor.value) ↔
        ∃ m ∈ milestones, ∃ w, m.Plans l.window w := by
    intro l
    refine exists_congr fun m => and_congr_right fun _ => ⟨?_, ?_⟩
    · rintro ⟨hopen, v, htitle, hmajor, hminor⟩
      exact ⟨v, hopen, htitle, hmajor, hminor⟩
    · rintro ⟨w, hopen, htitle, hmajor, hminor⟩
      exact ⟨hopen, w, htitle, hmajor, hminor⟩
  simp only [hplanned]
  rw [trim, String.toList_ofList, ← trim, ← and_assoc]
  refine ⟨?_, fun σ sha => Host.judge_settles k milestones ⟨name, sha⟩⟩
  by_cases hmain : SameName (trim name) k.mainlineBranch
  · rw [isGoverned_of_mainline hmain]
    refine ⟨fun g hg => iff_of_true (Except.ok.inj hg).symm (.inl hmain), fun f => ?_⟩
    exact iff_of_false (fun h => by cases h) fun hf => hf.2.1 hmain
  by_cases hline : ∃ l : LineName, trimChars name.toList = l.text
  · obtain ⟨l, hl⟩ := hline
    refine ⟨fun g hg => ?_, fun f => ?_⟩
    · rw [isGoverned_of_line_ok hmain hl hg, or_iff_right hmain, or_iff_left fun hother => hother.1 l hl,
        LineName.exists_text_iff hl]
    · rw [isGoverned_of_line_error hmain hl, LineName.exists_text_iff hl, and_iff_right hmain]
  · rw [not_exists] at hline
    obtain ⟨g', hg', hfree⟩ := isGoverned_of_other hmain hline milestones
    rw [hg']
    constructor
    · rintro g hg
      obtain rfl := Except.ok.inj hg
      have hnone : ¬∃ l : LineName, trimChars name.toList = l.text ∧ ∃ m ∈ milestones, ∃ w, m.Plans l.window w := by
        rintro ⟨l, hl, -⟩
        exact hline l hl
      rw [hfree, or_iff_right hmain, or_iff_right hnone, and_iff_right hline]
    · refine fun f => iff_of_false (fun h => by cases h) ?_
      rintro ⟨-, -, l, hl, -⟩
      exact hline l hl

/-- Where nothing jams the line, a branch with a line that is planned for is governed, even if its name is that of the
main
branch. -/
theorem isGoverned_of_planned (hname : trimChars name.toList = l.text) (hshort : l.IsShort)
    (hfree : ¬Jammed l.window milestones) {m : Milestone} {w : Version} (hm : m ∈ milestones)
    (hplans : m.Plans l.window w) : k.isGoverned name milestones = .ok true := by
  by_cases hmain : SameName (trim name) k.mainlineBranch
  · exact isGoverned_of_mainline hmain
  · rw [isGoverned_of_line hmain hname, if_pos hshort]
    rcases hfirst : firstOnLine l.window milestones with f | result
    · exact absurd (firstOnLine_eq_error_iff.mp hfirst).2 hfree
    · exact congrArg Except.ok ((isSome_firstOnLine hfirst).mpr ⟨m, hm, w, hplans⟩)

theorem isGoverned_longTitle (hmain : ¬SameName (trim "1.0.x") k.mainlineBranch) :
    k.isGoverned "1.0.x" [⟨1, Version.longTitle, "open", none⟩] = .error .numeralTooLong := by
  have hname : trimChars "1.0.x".toList = (LineName.mk (.decimal 1) (.decimal 0)).text := by decide +kernel
  rw [isGoverned_of_line hmain hname, if_pos (by decide +kernel)]
  have hjammed : Jammed (LineName.mk (.decimal 1) (.decimal 0)).window [⟨1, Version.longTitle, "open", none⟩] :=
    ⟨[], _, [], rfl, longTitle_overlong 1, nofun⟩
  rw [firstOnLine_eq_error_iff.mpr ⟨rfl, hjammed⟩]
  rfl

/-- A maintenance branch cannot be judged because of a title that is none of its line. -/
theorem judging_breaks_off :
    (∀ w, ¬Milestone.Plans ⟨1, 0, 0, ""⟩ ⟨1, Version.longTitle, "open", none⟩ w) ∧
      (Classifier.mk "master" ["gh-pages"] ["heroku"]).isGoverned "1.0.x"
        [⟨1, Version.longTitle, "open", none⟩] = .error .numeralTooLong := by
  constructor
  · intro w hplans
    cases Version.read_longTitle.symm.trans hplans.title
  · refine isGoverned_longTitle ?_
    unfold SameName
    decide +kernel

end Classifier

/-- **A milestone leads to a branch, and the branch to the line of the milestone.** An open milestone on the list whose
title is a version, and which is not the milestone of the main branch, has a maintenance branch. Looking for the
milestone
of this branch breaks off exactly if an open milestone with an overlong title stands in front of all those that plan a
version on the same line. Otherwise it is the first one of these, so it is the milestone itself if no other one plans a
version there; and the branch is governed under any classifier. -/
theorem milestone_branch_returns {m : Milestone} {v : Version} (hm : m ∈ milestones) (hopen : m.isOpen = true)
    (htitle : Version.read m.title = .ok (some v)) (mainline : Option Milestone)
    (hother : ∀ k ∈ mainline, k.number ≠ m.number) (mainlineBranch : String) :
    ∃ branch, branchForMilestone m mainline mainlineBranch = .ok (some branch) ∧ isLineBranch branch = true ∧
      (∀ f, milestoneForBranch branch milestones = .error f ↔ f = .numeralTooLong ∧ Jammed v milestones) ∧
      (¬Jammed v milestones →
        (∃ front chosen back w, milestones = front ++ chosen :: back ∧
          milestoneForBranch branch milestones = .ok (some chosen) ∧
          chosen.Plans v w ∧ ∀ n ∈ front, ∀ u, ¬n.Plans v u) ∧
        ((∀ n ∈ milestones, ∀ u, n.Plans v u → n = m) → milestoneForBranch branch milestones = .ok (some m)) ∧
        ∀ k : Classifier, k.isGoverned branch milestones = .ok true) := by
  obtain ⟨branch, l, hbranch, htext, hshort, hmajor, hminor⟩ := branchForMilestone_of_other hother htitle mainlineBranch
  have hname : trimChars branch.toList = l.text := by rw [htext, l.unbroken.trimChars]
  have hline : ∀ {n : Milestone} {u : Version}, n.Plans l.window u ↔ n.Plans v u := by
    intro n u
    constructor
    · rintro ⟨hn, hu, hmajor', hminor'⟩
      exact ⟨hn, hu, hmajor'.trans hmajor, hminor'.trans hminor⟩
    · rintro ⟨hn, hu, hmajor', hminor'⟩
      exact ⟨hn, hu, hmajor'.trans hmajor.symm, hminor'.trans hminor.symm⟩
  have hjammed : Jammed l.window milestones ↔ Jammed v milestones := by simp only [Jammed, hline]
  have hplans : m.Plans l.window v := hline.mpr ⟨hopen, htitle, rfl, rfl⟩
  refine ⟨branch, hbranch, isLineBranch_iff.mpr ⟨l, .inl htext⟩, ?_, fun hfree => ?_⟩
  · intro f
    rw [milestoneForBranch_of_name hname, if_pos hshort, firstOnLine_eq_error_iff, hjammed]
  have hfree' : ¬Jammed l.window milestones := mt hjammed.mp hfree
  rw [milestoneForBranch_of_name hname, if_pos hshort]
  rcases firstOnLine_cases l.window milestones with ⟨-, hjam⟩ | ⟨-, hnone⟩ |
    ⟨front, chosen, back, w, hchosen, hsplit, hw, hfront⟩
  · exact absurd hjam hfree'
  · exact absurd hplans ((hnone m hm).2 v)
  refine ⟨?_, ?_, ?_⟩
  · exact ⟨front, chosen, back, w, hsplit, hchosen, hline.mp hw, fun n hn u hu => (hfront n hn).2 u (hline.mpr hu)⟩
  · intro honly
    have hmem : chosen ∈ milestones := by simp [hsplit]
    rw [hchosen, honly chosen hmem w (hline.mp hw)]
  · exact fun k => Classifier.isGoverned_of_planned hname hshort hfree' hm hplans

/-- The release of the line comes first on the list, and its branch is governed although it serves web pages and
deployments, too. -/
theorem milestone_branch_returns_crowded :
    branchForMilestone ⟨8, " v6.5.0-RC2", "open", none⟩ (some ⟨3, "6.5.0-RC2+build", "open", none⟩) "master" =
        .ok (some "6.5.x") ∧
      milestoneForBranch "6.5.x" crowdedLine = .ok (some ⟨7, "6.5.0", "open", none⟩) ∧
      (Classifier.mk "master" ["6.5.x"] ["6.5.x"]).isGoverned "6.5.x" crowdedLine = .ok true := by
  have hmem : ⟨8, " v6.5.0-RC2", "open", none⟩ ∈ crowdedLine := by decide
  have htitle : Version.read " v6.5.0-RC2" = .ok (some ⟨6, 5, 0, "RC2"⟩) := by decide +kernel
  obtain ⟨branch, hbranch, -, -, hreturns⟩ :=
    milestone_branch_returns hmem (by decide) htitle (some ⟨3, "6.5.0-RC2+build", "open", none⟩) (by decide) "master"
  have hfree : ¬Jammed ⟨6, 5, 0, "RC2"⟩ crowdedLine := by
    rintro ⟨front, m, back, hsplit, hlong, -⟩
    have htitles : ∀ m ∈ crowdedLine, m.version ≠ .error .numeralTooLong := by decide +kernel
    exact htitles m (by simp [hsplit]) hlong.title
  obtain ⟨⟨front, chosen, back, w, hsplit, hchosen, -, hfront⟩, -, hgoverned⟩ := hreturns hfree
  obtain rfl : "6.5.x" = branch := by
    have hname : Except.ok (some "6.5.x") = (Except.ok (some branch) : Except Fault (Option String)) := by
      rw [← hbranch]
      decide +kernel
    exact Option.some.inj (Except.ok.inj hname)
  have hrelease : Milestone.Plans ⟨6, 5, 0, "RC2"⟩ ⟨7, "6.5.0", "open", none⟩ ⟨6, 5, 0, ""⟩ :=
    ⟨by decide, by decide +kernel, rfl, rfl⟩
  refine ⟨hbranch, ?_, hgoverned _⟩
  rw [hchosen]
  cases front with
  | nil => rw [(List.cons.inj hsplit).1]
  | cons n front =>
    -- nothing stands before the release
    rw [← (List.cons.inj hsplit).1] at hfront
    exact absurd hrelease (hfront _ (by simp) _)

/-- An overlong title in front of a milestone keeps it from being found for its own branch. -/
theorem return_breaks_off :
    ⟨2, "1.0", "open", none⟩ ∈ jammedLine ∧ Version.read "1.0" = .ok (some ⟨1, 0, 0, ""⟩) ∧
      branchForMilestone ⟨2, "1.0", "open", none⟩ none "master" = .ok (some "1.0.x") ∧
      milestoneForBranch "1.0.x" jammedLine = .error .numeralTooLong := by
  have hname : trimChars "1.0.x".toList = (LineName.mk (.decimal 1) (.decimal 0)).text := by decide +kernel
  refine ⟨by simp [jammedLine], by decide +kernel, by decide +kernel, ?_⟩
  rw [milestoneForBranch_of_name hname, if_pos (by decide +kernel)]
  exact firstOnLine_eq_error_iff.mpr ⟨rfl, [], _, _, rfl, longTitle_overlong 1, nofun⟩

end RunSteward
