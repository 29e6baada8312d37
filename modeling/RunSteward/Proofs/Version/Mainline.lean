import Mathlib.Data.List.Nodup
import RunSteward.Proofs.Branches.Active
import RunSteward.Proofs.List.Sorting
import RunSteward.Proofs.Version.Grammar
import RunSteward.Proofs.Version.Order

/-!
# The milestone of the main branch

Of the open milestones on the line of a version the one that comes first in the order of versions is chosen, and of
equal versions the one with the smallest number (`resolveMainline_earliest`). Everything else on the list is
without influence: closed milestones, titles that are no version, and other lines. Only an open milestone whose title
has
a numeral of too many digits (`Milestone.Overlong`) breaks the choice off, wherever it stands.
-/

namespace RunSteward

open Act

variable {v w w' current : Version} {m n : Milestone} {milestones : List Milestone}

/-! ## Milestones of a line -/

/-- An open milestone whose title is a version on the line of another version. -/
structure Milestone.Plans (current : Version) (m : Milestone) (w : Version) : Prop where
  isOpen : m.isOpen = true
  title : m.version = .ok (some w)
  major : w.major = current.major
  minor : w.minor = current.minor

/-- An open milestone whose title spells a version with a numeral that is too long. -/
structure Milestone.Overlong (m : Milestone) : Prop where
  isOpen : m.isOpen = true
  title : m.version = .error .numeralTooLong

namespace Version

theorem sameLine_iff : w.sameLine v = true ↔ w.major = v.major ∧ w.minor = v.minor := by
  simp [sameLine]

theorem sameLine_congr (h : v.major = w.major) (h' : v.minor = w.minor) : (sameLine · v) = (sameLine · w) := by
  funext u
  simp [sameLine, h, h']

end Version

/-! ## The order of milestones -/

/-- Where a milestone with its version stands among the others. -/
def milestoneRank (p : Version × Milestone) : (ℤ ×ₗ ℤ ×ₗ ℤ ×ₗ Bool ×ₗ String) ×ₗ ℤ :=
  toLex (p.1.rank, p.2.number)

theorem comesFirst_iff_rank {p q : Version × Milestone} :
    comesFirst p q = true ↔ milestoneRank p ≤ milestoneRank q := by
  have hparts : comesFirst p q = true ↔ p.1.rank < q.1.rank ∨ (¬q.1.rank < p.1.rank ∧ p.2.number ≤ q.2.number) := by
    rw [← Version.lt_iff_rank, ← Version.lt_iff_rank]
    simp [comesFirst]
  rw [hparts, milestoneRank, milestoneRank, Prod.Lex.toLex_le_toLex]
  rcases lt_trichotomy p.1.rank q.1.rank with hlt | heq | hgt
  · simp [hlt]
  · simp [heq]
  · simp [hgt, hgt.ne', hgt.not_gt]

theorem comesFirst_trans (p q r : Version × Milestone) (h : comesFirst p q = true) (h' : comesFirst q r = true) :
    comesFirst p r = true := by
  rw [comesFirst_iff_rank] at h h' ⊢
  exact h.trans h'

theorem comesFirst_total (p q : Version × Milestone) : (comesFirst p q || comesFirst q p) = true := by
  rw [Bool.or_eq_true, comesFirst_iff_rank, comesFirst_iff_rank]
  exact le_total _ _

/-! ## Versions with their milestones -/

/-- The open milestones whose titles are read as versions, each with its version. -/
def titled (milestones : List Milestone) : List (Version × Milestone) :=
  (milestones.filter Milestone.isOpen).filterMap fun m => m.titled.toOption.join

theorem Milestone.titled_eq_some {p : Version × Milestone} :
    m.titled.toOption.join = some p ↔ m.version = .ok (some p.1) ∧ p.2 = m := by
  obtain ⟨w, n⟩ := p
  rw [Milestone.titled]
  rcases m.version with f | _ | v
  · exact iff_of_false nofun fun h => nomatch h.1
  · exact iff_of_false nofun fun h => nomatch h.1
  · simp [Except.map, Except.toOption, eq_comm]

theorem mem_titled {p : Version × Milestone} :
    p ∈ titled milestones ↔ p.2 ∈ milestones ∧ p.2.isOpen = true ∧ p.2.version = .ok (some p.1) := by
  simp only [titled, List.mem_filterMap, List.mem_filter, Milestone.titled_eq_some]
  constructor
  · rintro ⟨m, ⟨hm, hopen⟩, htitle, rfl⟩
    exact ⟨hm, hopen, htitle⟩
  · rintro ⟨hm, hopen, htitle⟩
    exact ⟨p.2, ⟨hm, hopen⟩, htitle, rfl⟩

theorem plans_iff {p : Version × Milestone} :
    p ∈ titled milestones ∧ p.1.sameLine current = true ↔ p.2 ∈ milestones ∧ p.2.Plans current p.1 := by
  rw [mem_titled, Version.sameLine_iff]
  constructor
  · rintro ⟨⟨hmem, hopen, htitle⟩, hmajor, hminor⟩
    exact ⟨hmem, hopen, htitle, hmajor, hminor⟩
  · rintro ⟨hmem, hopen, htitle, hmajor, hminor⟩
    exact ⟨⟨hmem, hopen, htitle⟩, hmajor, hminor⟩

theorem titled_append (front back : List Milestone) : titled (front ++ back) = titled front ++ titled back := by
  simp [titled]

theorem titled_perm {milestones' : List Milestone} (h : milestones.Perm milestones') :
    (titled milestones).Perm (titled milestones') :=
  (h.filter _).filterMap _

/-! ## The earliest milestone of a line -/

/-- The first milestone of a line among those whose titles can be read. -/
def earliest (current : Version) (milestones : List Milestone) : Option Milestone :=
  (((titled milestones).mergeSort comesFirst).find? fun p => p.1.sameLine current).map Prod.snd

theorem earliest_eq_none : earliest current milestones = none ↔ ∀ m ∈ milestones, ∀ w, ¬m.Plans current w := by
  rw [earliest, Option.map_eq_none_iff, List.find?_eq_none]
  constructor
  · intro hnone m hm w hplans
    obtain ⟨htitled, hline⟩ := plans_iff (p := (w, m)).mpr ⟨hm, hplans⟩
    exact hnone (w, m) (List.mem_mergeSort.mpr htitled) hline
  · intro hnone p hp hline
    obtain ⟨hmem, hplans⟩ := plans_iff.mp ⟨List.mem_mergeSort.mp hp, hline⟩
    exact hnone p.2 hmem p.1 hplans

theorem earliest_first (h : earliest current milestones = some m) :
    ∃ w, m ∈ milestones ∧ m.Plans current w ∧
      ∀ n ∈ milestones, ∀ w', n.Plans current w' → w.Precedes w' ∨ (w = w' ∧ m.number ≤ n.number) := by
  rw [earliest] at h
  obtain ⟨⟨w, m⟩, hfound, rfl⟩ := Option.map_eq_some_iff.mp h
  have hline : w.sameLine current = true := by simpa using List.find?_some hfound
  obtain ⟨hmem, hplans⟩ := plans_iff (p := (w, m)).mp
    ⟨List.mem_mergeSort.mp (List.mem_of_find?_eq_some hfound), hline⟩
  refine ⟨w, hmem, hplans, fun n hn w' hplans' => ?_⟩
  obtain ⟨htitled, hline'⟩ := plans_iff (p := (w', n)).mpr ⟨hn, hplans'⟩
  have hfirst := le_of_find?_mergeSort comesFirst_trans comesFirst_total hfound htitled hline'
  rw [comesFirst_iff_rank, milestoneRank, milestoneRank, Prod.Lex.toLex_le_toLex, ← Version.lt_iff_rank,
    Version.lt_iff_precedes] at hfirst
  rcases hfirst with hprecedes | ⟨hsame, hnumber⟩
  · exact .inl hprecedes
  · exact .inr ⟨Version.rank_injective hsame, hnumber⟩

theorem earliest_of_least (hm : m ∈ milestones) (hplans : m.Plans current w)
    (hleast : ∀ n ∈ milestones, ∀ w', n.Plans current w' → n = m ∨ w.lt w' = true) :
    earliest current milestones = some m := by
  cases hchosen : earliest current milestones with
  | none => exact absurd hplans (earliest_eq_none.mp hchosen m hm w)
  | some n =>
    obtain ⟨w', hn, hplans', hfirst⟩ := earliest_first hchosen
    rcases hleast n hn w' hplans' with rfl | hlt
    · rfl
    · exfalso
      rw [Version.lt_iff_rank] at hlt
      rcases hfirst m hm w hplans with hprecedes | ⟨rfl, -⟩
      · rw [← Version.lt_iff_precedes, Version.lt_iff_rank] at hprecedes
        exact lt_asymm hlt hprecedes
      · exact lt_irrefl _ hlt

theorem earliest_congr (hmajor : v.major = current.major) (hminor : v.minor = current.minor)
    (milestones : List Milestone) : earliest v milestones = earliest current milestones := by
  have hline := Version.sameLine_congr hmajor hminor
  rw [earliest, earliest]
  congr 2
  funext p
  exact congrFun hline p.1

theorem earliest_insert {more : List Milestone} (hmore : ∀ m ∈ more, ∀ w, ¬m.Plans current w)
    (front back : List Milestone) :
    earliest current (front ++ more ++ back) = earliest current (front ++ back) := by
  -- what is on the line stays the same, and nothing else is searched for
  have hnone : (titled more).filter (fun p => p.1.sameLine current) = [] := by
    refine List.filter_eq_nil_iff.mpr fun p hp hline => ?_
    obtain ⟨hmem, hplans⟩ := plans_iff.mp ⟨hp, hline⟩
    exact hmore p.2 hmem p.1 hplans
  have hline : (titled (front ++ more ++ back)).filter (fun p => p.1.sameLine current) =
      (titled (front ++ back)).filter fun p => p.1.sameLine current := by
    simp only [titled_append, List.filter_append, hnone, List.append_nil]
  rw [earliest, earliest, ← find?_mergeSort_filter comesFirst_trans comesFirst_total,
    hline, find?_mergeSort_filter comesFirst_trans comesFirst_total]

theorem earliest_perm {milestones' : List Milestone} (hperm : milestones.Perm milestones')
    (hnumbers : (milestones.map Milestone.number).Nodup) :
    earliest current milestones' = earliest current milestones := by
  rw [earliest, earliest]
  congr 2
  refine (mergeSort_eq_of_perm comesFirst_trans comesFirst_total (titled_perm hperm) fun p hp q hq hpq hqp => ?_).symm
  rw [comesFirst_iff_rank] at hpq hqp
  have hranks := le_antisymm hpq hqp
  simp only [milestoneRank, toLex_inj, Prod.mk.injEq] at hranks
  have hsame := List.inj_on_of_nodup_map hnumbers (mem_titled.mp hp).1 (mem_titled.mp hq).1 hranks.2
  exact Prod.ext (Version.rank_injective hranks.1) hsame

/-! ## Titles that break the choice off -/

theorem Milestone.version_fault {f : Fault} (h : m.version = .error f) : f = .numeralTooLong :=
  (Version.read_eq_error_iff.mp h).1

theorem mapM_titled {ms : List Milestone} (h : ∀ m ∈ ms, m.version ≠ .error .numeralTooLong) :
    ms.mapM Milestone.titled = .ok (ms.map fun m => m.titled.toOption.join) := by
  induction ms with
  | nil => rfl
  | cons m ms ih =>
    obtain ⟨hm, hms⟩ := List.forall_mem_cons.mp h
    rw [List.mapM_cons, ih hms, List.map_cons]
    rcases hversion : m.version with f | v
    · obtain rfl := Milestone.version_fault hversion
      exact absurd hversion hm
    · rw [Milestone.titled, hversion]
      rfl

theorem mapM_titled_of_overlong {ms : List Milestone} (h : ∃ m ∈ ms, m.version = .error .numeralTooLong) :
    ms.mapM Milestone.titled = .error .numeralTooLong := by
  induction ms with
  | nil => simp at h
  | cons m ms ih =>
    rw [List.mapM_cons, Milestone.titled]
    rcases hversion : m.version with f | v
    · obtain rfl := Milestone.version_fault hversion
      rfl
    · rw [List.exists_mem_cons_iff, hversion] at h
      rw [ih (h.resolve_left nofun)]
      rfl

theorem milestoneForMainline_of_overlong (h : ∃ m ∈ milestones, m.Overlong) :
    milestoneForMainline current milestones = .error .numeralTooLong := by
  obtain ⟨m, hm, hopen, htitle⟩ := h
  rw [milestoneForMainline, mapM_titled_of_overlong ⟨m, by simp [hm, hopen], htitle⟩]
  rfl

theorem milestoneForMainline_eq (h : ∀ m ∈ milestones, ¬m.Overlong) :
    milestoneForMainline current milestones = .ok (earliest current milestones) := by
  have hread : ∀ m ∈ milestones.filter Milestone.isOpen, m.version ≠ .error .numeralTooLong := by
    intro m hm htitle
    obtain ⟨hmem, hopen⟩ := List.mem_filter.mp hm
    exact h m hmem ⟨hopen, htitle⟩
  have htitled : ((milestones.filter Milestone.isOpen).map fun m => m.titled.toOption.join).filterMap id =
      titled milestones := List.filterMap_map
  rw [milestoneForMainline, mapM_titled hread, earliest, ← htitled]
  rfl

theorem milestoneForMainline_eq_error_iff {f : Fault} :
    milestoneForMainline current milestones = .error f ↔ f = .numeralTooLong ∧ ∃ m ∈ milestones, m.Overlong := by
  by_cases h : ∃ m ∈ milestones, m.Overlong
  · rw [milestoneForMainline_of_overlong h]
    exact ⟨fun hf => ⟨(Except.error.inj hf).symm, h⟩, fun hf => congrArg Except.error hf.1.symm⟩
  · rw [milestoneForMainline_eq fun m hm hlong => h ⟨m, hm, hlong⟩]
    exact iff_of_false nofun fun hf => h hf.2

theorem milestoneForMainline_eq_ok_iff {result : Option Milestone} :
    milestoneForMainline current milestones = .ok result ↔
      (∀ m ∈ milestones, ¬m.Overlong) ∧ earliest current milestones = result := by
  by_cases h : ∃ m ∈ milestones, m.Overlong
  · rw [milestoneForMainline_of_overlong h]
    obtain ⟨m, hm, hlong⟩ := h
    exact iff_of_false nofun fun hresult => hresult.1 m hm hlong
  · have hread : ∀ m ∈ milestones, ¬m.Overlong := fun m hm hlong => h ⟨m, hm, hlong⟩
    rw [milestoneForMainline_eq hread, Except.ok.injEq, and_iff_right hread]

/-- Lists with the same overlong titles, or with none, have the same end if their earliest milestones are the same. -/
theorem milestoneForMainline_congr {v : Version} {milestones' : List Milestone}
    (hlong : (∃ m ∈ milestones', m.Overlong) ↔ ∃ m ∈ milestones, m.Overlong)
    (hearliest : earliest v milestones' = earliest current milestones) :
    milestoneForMainline v milestones' = milestoneForMainline current milestones := by
  by_cases h : ∃ m ∈ milestones, m.Overlong
  · rw [milestoneForMainline_of_overlong h, milestoneForMainline_of_overlong (hlong.mpr h)]
  · have hread : ∀ m ∈ milestones, ¬m.Overlong := fun m hm hm' => h ⟨m, hm, hm'⟩
    have hread' : ∀ m ∈ milestones', ¬m.Overlong := fun m hm hm' => h (hlong.mp ⟨m, hm, hm'⟩)
    rw [milestoneForMainline_eq hread, milestoneForMainline_eq hread', hearliest]

theorem resolveMainline_settles {σ : Type} (current : Version) (milestones : List Milestone) :
    Settles (resolveMainline current milestones : Act σ (Option Milestone))
      (milestoneForMainline current milestones) :=
  (Milestone.noteAllUnreadable_notes _).then (settles_orHalt _)

/-- **The milestone of the main branch is the first one of its line.** The search changes nothing but the log. It breaks
off exactly if an open milestone has an overlong title. Otherwise it finds nothing exactly if no open milestone plans a
version on the line; and else it finds one that does, and that comes before all others by version and number. Only the
line of the version counts; milestones that plan nothing on it, and are not overlong, make no difference wherever they
stand; and where all numbers are different, the order of the list makes none, either. -/
theorem resolveMainline_earliest {σ : Type} (current : Version) (milestones : List Milestone) :
    Settles (resolveMainline current milestones : Act σ (Option Milestone))
        (milestoneForMainline current milestones) ∧
      (∀ f, milestoneForMainline current milestones = .error f ↔
        f = .numeralTooLong ∧ ∃ m ∈ milestones, m.Overlong) ∧
      (milestoneForMainline current milestones = .ok none ↔
        (∀ m ∈ milestones, ¬m.Overlong) ∧ ∀ m ∈ milestones, ∀ w, ¬m.Plans current w) ∧
      (∀ m, milestoneForMainline current milestones = .ok (some m) → ∃ w, m ∈ milestones ∧ m.Plans current w ∧
        ∀ n ∈ milestones, ∀ w', n.Plans current w' → w.Precedes w' ∨ (w = w' ∧ m.number ≤ n.number)) ∧
      (∀ v : Version, v.major = current.major → v.minor = current.minor →
        milestoneForMainline v milestones = milestoneForMainline current milestones) ∧
      (∀ front more back, milestones = front ++ back → (∀ m ∈ more, ¬m.Overlong ∧ ∀ w, ¬m.Plans current w) →
        milestoneForMainline current (front ++ more ++ back) = milestoneForMainline current milestones) ∧
      ∀ milestones', milestones.Perm milestones' → (milestones.map Milestone.number).Nodup →
        milestoneForMainline current milestones' = milestoneForMainline current milestones := by
  refine ⟨resolveMainline_settles current milestones, fun f => milestoneForMainline_eq_error_iff, ?_, ?_, ?_, ?_, ?_⟩
  · rw [milestoneForMainline_eq_ok_iff, earliest_eq_none]
  · intro m hchosen
    exact earliest_first (milestoneForMainline_eq_ok_iff.mp hchosen).2
  · intro v hmajor hminor
    exact milestoneForMainline_congr Iff.rfl (earliest_congr hmajor hminor milestones)
  · rintro front more back rfl hmore
    refine milestoneForMainline_congr ?_ (earliest_insert (fun m hm => (hmore m hm).2) front back)
    simp only [List.mem_append, or_and_right, exists_or]
    exact or_congr_left (or_iff_left fun ⟨m, hm, hlong⟩ => (hmore m hm).1 hlong)
  · intro milestones' hperm hnumbers
    refine milestoneForMainline_congr ?_ (earliest_perm hperm hnumbers)
    simp only [hperm.mem_iff]

/-- A line with a release and two candidates for it that differ in their build only, and what lies around it. -/
def crowdedLine : List Milestone :=
  [⟨7, "6.5.0", "open", none⟩, ⟨8, " v6.5.0-RC2", "open", none⟩, ⟨9, "6.5.0-RC1", "closed", none⟩,
    ⟨3, "6.5.0-RC2+build", "open", none⟩, ⟨4, "backlog", "open", none⟩, ⟨5, "6.4.9", "open", none⟩]

/-- The candidate with the smaller number, for every version of the line and in every order of the list. -/
theorem resolveMainline_earliest_crowded :
    (crowdedLine.map Milestone.number).Nodup ∧
      milestoneForMainline ⟨6, 5, 3, ""⟩ crowdedLine = .ok (some ⟨3, "6.5.0-RC2+build", "open", none⟩) ∧
      milestoneForMainline ⟨6, 5, 9, "beta"⟩ crowdedLine = .ok (some ⟨3, "6.5.0-RC2+build", "open", none⟩) ∧
      milestoneForMainline ⟨6, 5, 3, ""⟩ crowdedLine.reverse = .ok (some ⟨3, "6.5.0-RC2+build", "open", none⟩) := by
  have hnumbers : (crowdedLine.map Milestone.number).Nodup := by decide
  obtain ⟨-, herror, hnone, hfirst, hcongr, -, hperm⟩ :=
    resolveMainline_earliest (σ := Unit) ⟨6, 5, 3, ""⟩ crowdedLine
  have hread : ∀ m ∈ crowdedLine, ¬m.Overlong := by
    have htitles : ∀ m ∈ crowdedLine, m.version ≠ .error .numeralTooLong := by decide +kernel
    exact fun m hm hlong => htitles m hm hlong.title
  have hcandidate : Milestone.Plans ⟨6, 5, 3, ""⟩ ⟨3, "6.5.0-RC2+build", "open", none⟩ ⟨6, 5, 0, "RC2"⟩ :=
    ⟨rfl, by decide +kernel, rfl, rfl⟩
  have hchosen : milestoneForMainline ⟨6, 5, 3, ""⟩ crowdedLine =
      .ok (some ⟨3, "6.5.0-RC2+build", "open", none⟩) := by
    rcases hresult : milestoneForMainline ⟨6, 5, 3, ""⟩ crowdedLine with f | _ | m
    · obtain ⟨-, m, hm, hlong⟩ := (herror f).mp hresult
      exact absurd hlong (hread m hm)
    · exact absurd hcandidate ((hnone.mp hresult).2 _ (by decide) _)
    · obtain ⟨w, hmem, hplans, hleast⟩ := hfirst m hresult
      have hbefore := hleast _ (by decide) _ hcandidate
      rw [← Version.lt_iff_precedes] at hbefore
      have honly : ∀ n ∈ crowdedLine, ∀ w ∈ n.version.toOption.join, n.isOpen = true → w.major = 6 → w.minor = 5 →
          (w.lt ⟨6, 5, 0, "RC2"⟩ = true ∨ (w = ⟨6, 5, 0, "RC2"⟩ ∧ n.number ≤ 3)) →
          n = ⟨3, "6.5.0-RC2+build", "open", none⟩ := by
        decide +kernel
      have htitle : w ∈ m.version.toOption.join := by rw [hplans.title]; rfl
      rw [honly m hmem w htitle hplans.isOpen hplans.major hplans.minor hbefore]
  exact ⟨hnumbers, hchosen, (hcongr ⟨6, 5, 9, "beta"⟩ rfl rfl).trans hchosen,
    (hperm _ (List.reverse_perm _).symm hnumbers).trans hchosen⟩

theorem longTitle_overlong (number : Int) : Milestone.Overlong ⟨number, Version.longTitle, "open", none⟩ :=
  ⟨rfl, Version.read_longTitle⟩

/-- An overlong title next to a milestone of the line. -/
def jammedLine : List Milestone :=
  [⟨1, Version.longTitle, "open", none⟩, ⟨2, "1.0", "open", none⟩]

/-- The milestone of the main branch is not found because of an open milestone that plans nothing on its line. -/
theorem mainline_breaks_off :
    Milestone.Plans ⟨1, 0, 0, ""⟩ ⟨2, "1.0", "open", none⟩ ⟨1, 0, 0, ""⟩ ∧
      (∀ w, ¬Milestone.Plans ⟨1, 0, 0, ""⟩ ⟨1, Version.longTitle, "open", none⟩ w) ∧
      milestoneForMainline ⟨1, 0, 0, ""⟩ jammedLine = .error .numeralTooLong := by
  refine ⟨⟨rfl, by decide +kernel, rfl, rfl⟩, fun w hplans => ?_, ?_⟩
  · cases Version.read_longTitle.symm.trans hplans.title
  · exact milestoneForMainline_of_overlong ⟨_, List.mem_cons_self, longTitle_overlong 1⟩

end RunSteward
