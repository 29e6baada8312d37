import RunSteward.Proofs.Version.Grammar
import RunSteward.Proofs.Version.Mainline

/-!
# Maintenance branches and their milestones

A maintenance branch is named by two numerals with the letter x behind them (`LineName`). If they are not too long, its
window is the open end of its line (`branchWindow_of_name`), so its milestone is the first open one on the list that
plans
a version of the line (`firstOnLine_eq_some_iff`), unless an overlong title stands in front of it (`Jammed`). A
milestone
leads to the branch of its own line (`branchForMilestone_of_other`).
-/

namespace RunSteward

open Version Text

/-- The parts of the name of a maintenance branch. -/
structure LineName where
  major : Numeral
  minor : Numeral

namespace LineName

def text (l : LineName) : List Char :=
  l.major.chars ++ '.' :: (l.minor.chars ++ ['.', 'x'])

/-- The open end of the line. -/
def window (l : LineName) : Version where
  major := l.major.value
  minor := l.minor.value
  patch := unboundedPatch

end LineName

/-- Neither numeral has too many digits. -/
def LineName.IsShort (l : LineName) : Prop :=
  l.major.chars.length ≤ digitLimit ∧ l.minor.chars.length ≤ digitLimit

instance (l : LineName) : Decidable l.IsShort :=
  inferInstanceAs (Decidable (_ ∧ _))

variable {name : String} {l : LineName} {m n : Milestone} {milestones : List Milestone} {v w : Version}

/-! ## Names -/

theorem isLineBranch_iff : isLineBranch name = true ↔
    ∃ l : LineName, name.toList = l.text ∨ name.toList = l.text ++ ['\n'] := by
  constructor
  · intro h
    unfold isLineBranch at h
    split at h
    · next rest hmajor =>
      split at h
      · next rest hminor =>
        obtain ⟨major, hname, -⟩ := exists_numeral hmajor
        obtain ⟨cs, rfl, hminor⟩ := exists_pointed hminor
        obtain ⟨minor, rfl, -⟩ := exists_numeral hminor
        refine ⟨⟨major, minor⟩, ?_⟩
        rw [hname, LineName.text]
        rcases (by simpa using h : rest = ['.', 'x'] ∨ rest = ['.', 'x', '\n']) with rfl | rfl
        · exact .inl rfl
        · exact .inr (by simp)
      · cases h
    · cases h
  · rintro ⟨l, hname⟩
    obtain ⟨rest, hrest, hname⟩ : ∃ rest, (rest = ['.', 'x'] ∨ rest = ['.', 'x', '\n']) ∧
        name.toList = l.major.chars ++ '.' :: (l.minor.chars ++ rest) := by
      rcases hname with hname | hname
      · exact ⟨_, .inl rfl, hname⟩
      · exact ⟨_, .inr rfl, by simp [hname, LineName.text]⟩
    have hends : EndsAt isDigit rest := by
      rcases hrest with rfl | rfl
      · exact endsAt_point _
      · exact endsAt_point _
    have hminor := l.minor.denotes.take hends
    have hmajor := l.major.denotes.take (endsAt_point (l.minor.chars ++ rest))
    simp only [isLineBranch, hname, hmajor, takePointed?, hminor]
    simpa using hrest

theorem LineName.text_injective {l l' : LineName} (h : l.text = l'.text) : l = l' := by
  obtain ⟨hmajor, hrest⟩ := append_inj_of_endsAt l.major.denotes.digits l'.major.denotes.digits (endsAt_point _)
    (endsAt_point _) h
  obtain ⟨hminor, -⟩ := append_inj_of_endsAt l.minor.denotes.digits l'.minor.denotes.digits (endsAt_point _)
    (endsAt_point _) (List.cons.inj hrest).2
  obtain ⟨major, minor⟩ := l
  obtain ⟨major', minor'⟩ := l'
  obtain rfl : major = major' := Numeral.chars_injective hmajor
  obtain rfl : minor = minor' := Numeral.chars_injective hminor
  rfl

theorem LineName.exists_text_iff {l : LineName} {s : List Char} (h : s = l.text) {P : LineName → Prop} :
    (∃ l' : LineName, s = l'.text ∧ P l') ↔ P l := by
  constructor
  · rintro ⟨l', hl', hp⟩
    obtain rfl := LineName.text_injective (h.symm.trans hl')
    exact hp
  · exact fun hp => ⟨l, h, hp⟩

theorem LineName.unbroken (l : LineName) : Unbroken l.text := by
  intro c hc
  simp only [text, List.mem_append, List.mem_cons, List.not_mem_nil, or_false] at hc
  rcases hc with hc | rfl | hc | rfl | rfl
  · exact l.major.unbroken c hc
  · decide
  · exact l.minor.unbroken c hc
  · decide
  · decide

/-- Behind blanks no line feed is left over. -/
theorem isLineBranch_trim : isLineBranch (trim name) = true ↔ ∃ l : LineName, trimChars name.toList = l.text := by
  rw [isLineBranch_iff, trim, String.toList_ofList]
  refine exists_congr fun l => or_iff_left fun hname => ?_
  have hlast := trimChars_getLast? name.toList '\n' (by simp [hname])
  exact absurd hlast (by decide)

/-! ## Windows -/

/-- The open end of the line as it is spelled. -/
def LineName.spelling (l : LineName) : Spelling where
  major := l.major
  minor := l.minor
  patch := some (.decimal unboundedPatch)

theorem LineName.isShort_spelling (l : LineName) : l.spelling.IsShort ↔ l.IsShort := by
  have hpatch : (Numeral.decimal unboundedPatch).chars.length ≤ digitLimit := by decide +kernel
  simp [Spelling.IsShort, Spelling.numerals, spelling, IsShort, hpatch]

theorem branchWindow_of_name (h : trimChars name.toList = l.text) :
    branchWindow name = if l.IsShort then .ok (some l.window) else .error .numeralTooLong := by
  have hreverse : (trimChars name.toList).reverse = 'x' :: '.' :: (l.major.chars ++ '.' :: l.minor.chars).reverse := by
    simp [h, LineName.text]
  have htext : l.spelling.text =
      l.major.chars ++ '.' :: (l.minor.chars ++ '.' :: Nat.toDigits 10 unboundedPatch) := by
    simp [LineName.spelling, Spelling.text, Spelling.suffix, marked, Numeral.decimal]
  have hdigits : (toString unboundedPatch).toList = Nat.toDigits 10 unboundedPatch := by
    show (Nat.repr unboundedPatch).toList = _
    simp [Nat.repr]
  have hread : read (String.ofList l.spelling.text) =
      if l.spelling.IsShort then .ok (some l.spelling.version) else .error .numeralTooLong :=
    read_of_spelling (by rw [String.toList_ofList, l.spelling.unbroken.trimChars])
  unfold branchWindow
  simp only [hreverse, List.reverse_reverse, hdigits]
  rw [List.append_assoc, List.cons_append, ← htext, hread]
  exact if_congr l.isShort_spelling rfl rfl

theorem branchWindow_fault {f : Fault} (h : branchWindow name = .error f) : f = .numeralTooLong := by
  unfold branchWindow at h
  dsimp only at h
  split at h
  · exact (read_eq_error_iff.mp h).1
  · exact (read_eq_error_iff.mp h).1

/-! ## Milestones -/

theorem isOnLine_eq_true_iff : m.isOnLine v = .ok true ↔ ∃ w, m.Plans v w := by
  rw [Milestone.isOnLine]
  constructor
  · intro h
    split at h
    · next hopen =>
      rcases hversion : m.version with f | _ | w <;> rw [hversion] at h
      · cases h
      · cases h
      · obtain ⟨hmajor, hminor⟩ := sameLine_iff.mp (Except.ok.inj h)
        exact ⟨w, hopen, hversion, hmajor, hminor⟩
    · cases h
  · rintro ⟨w, hopen, htitle, hmajor, hminor⟩
    rw [if_pos hopen, htitle]
    exact congrArg Except.ok (sameLine_iff.mpr ⟨hmajor, hminor⟩)

theorem isOnLine_eq_error_iff {f : Fault} :
    m.isOnLine v = .error f ↔ f = .numeralTooLong ∧ m.Overlong := by
  rw [Milestone.isOnLine]
  constructor
  · intro h
    split at h
    · next hopen =>
      rcases hversion : m.version with f' | w <;> rw [hversion] at h
      · obtain rfl := Milestone.version_fault hversion
        exact ⟨(Except.error.inj h).symm, hopen, hversion⟩
      · cases h
    · cases h
  · rintro ⟨rfl, hopen, htitle⟩
    rw [if_pos hopen, htitle]
    rfl

theorem isOnLine_eq_false_iff : m.isOnLine v = .ok false ↔ ¬m.Overlong ∧ ∀ w, ¬m.Plans v w := by
  rcases h : m.isOnLine v with f | _ | _
  · exact iff_of_false nofun fun hfree => hfree.1 (isOnLine_eq_error_iff.mp h).2
  · refine iff_of_true rfl ⟨fun hlong => ?_, fun w hplans => ?_⟩
    · cases h.symm.trans (isOnLine_eq_error_iff.mpr ⟨rfl, hlong⟩)
    · cases h.symm.trans (isOnLine_eq_true_iff.mpr ⟨w, hplans⟩)
  · obtain ⟨w, hplans⟩ := isOnLine_eq_true_iff.mp h
    exact iff_of_false nofun fun hfree => hfree.2 w hplans

/-- An open milestone with an overlong title stands in front of all that are planned for a line. -/
def Jammed (v : Version) (milestones : List Milestone) : Prop :=
  ∃ front m back, milestones = front ++ m :: back ∧ m.Overlong ∧ ∀ n ∈ front, ∀ w, ¬n.Plans v w

theorem firstOnLine_cons (m : Milestone) (milestones : List Milestone) : firstOnLine v (m :: milestones) =
    m.isOnLine v >>= fun isOnLine => if isOnLine then .ok (some m) else firstOnLine v milestones := by
  rw [firstOnLine]
  rcases m.isOnLine v with f | _ | _ <;> rfl

theorem firstOnLine_cases (v : Version) (milestones : List Milestone) :
    (firstOnLine v milestones = .error .numeralTooLong ∧ Jammed v milestones) ∨
    (firstOnLine v milestones = .ok none ∧ ∀ n ∈ milestones, ¬n.Overlong ∧ ∀ w, ¬n.Plans v w) ∨
    ∃ front m back w, firstOnLine v milestones = .ok (some m) ∧ milestones = front ++ m :: back ∧ m.Plans v w ∧
      ∀ n ∈ front, ¬n.Overlong ∧ ∀ w, ¬n.Plans v w := by
  induction milestones with
  | nil => exact .inr (.inl ⟨rfl, nofun⟩)
  | cons m milestones ih =>
    rw [firstOnLine_cons]
    rcases hline : m.isOnLine v with f | _ | _
    · obtain ⟨rfl, hlong⟩ := isOnLine_eq_error_iff.mp hline
      exact .inl ⟨rfl, [], m, milestones, rfl, hlong, nofun⟩
    · have hpassed := isOnLine_eq_false_iff.mp hline
      rcases ih with ⟨hend, front, n, back, rfl, hlong, hfront⟩ | ⟨hend, hnone⟩ |
        ⟨front, n, back, w, hend, rfl, hplans, hfront⟩
      · refine .inl ⟨hend, m :: front, n, back, rfl, hlong, ?_⟩
        exact List.forall_mem_cons.mpr ⟨hpassed.2, hfront⟩
      · exact .inr (.inl ⟨hend, List.forall_mem_cons.mpr ⟨hpassed, hnone⟩⟩)
      · refine .inr (.inr ⟨m :: front, n, back, w, hend, rfl, hplans, ?_⟩)
        exact List.forall_mem_cons.mpr ⟨hpassed, hfront⟩
    · obtain ⟨w, hplans⟩ := isOnLine_eq_true_iff.mp hline
      exact .inr (.inr ⟨[], m, milestones, w, rfl, rfl, hplans, nofun⟩)

theorem firstOnLine_eq_error_iff {f : Fault} :
    firstOnLine v milestones = .error f ↔ f = .numeralTooLong ∧ Jammed v milestones := by
  rcases firstOnLine_cases v milestones with ⟨hend, hjammed⟩ | ⟨hend, hnone⟩ | ⟨front, m, back, w, hend, rfl, hplans, hfront⟩
  · rw [hend, Except.error.injEq, and_iff_left hjammed, eq_comm]
  · rw [hend]
    refine iff_of_false nofun ?_
    rintro ⟨-, front, m, back, rfl, hlong, -⟩
    exact (hnone m (by simp)).1 hlong
  · rw [hend]
    refine iff_of_false nofun ?_
    rintro ⟨-, front', m', back', hsplit, hlong, hfront'⟩
    -- one of the two stands first
    rcases List.append_eq_append_iff.mp hsplit with ⟨_ | ⟨c, more⟩, rfl, hmore⟩ | ⟨_ | ⟨c, more⟩, rfl, hmore⟩
    · obtain rfl := (List.cons.inj hmore).1
      cases hplans.title.symm.trans hlong.title
    · obtain rfl := (List.cons.inj hmore).1
      exact hfront' m (by simp) w hplans
    · obtain rfl := (List.cons.inj hmore).1
      cases hplans.title.symm.trans hlong.title
    · obtain rfl := (List.cons.inj hmore).1
      exact (hfront m' (by simp)).1 hlong

theorem isSome_firstOnLine {result : Option Milestone} (h : firstOnLine v milestones = .ok result) :
    result.isSome = true ↔ ∃ m ∈ milestones, ∃ w, m.Plans v w := by
  rcases firstOnLine_cases v milestones with ⟨hend, -⟩ | ⟨hend, hnone⟩ | ⟨front, m, back, w, hend, rfl, hplans, -⟩
  · cases hend.symm.trans h
  · obtain rfl := Except.ok.inj (hend.symm.trans h)
    exact iff_of_false nofun fun ⟨m, hm, w, hplans⟩ => (hnone m hm).2 w hplans
  · obtain rfl := Except.ok.inj (hend.symm.trans h)
    exact iff_of_true rfl ⟨m, by simp, w, hplans⟩

theorem milestoneForBranch_of_name (h : trimChars name.toList = l.text) (milestones : List Milestone) :
    milestoneForBranch name milestones =
      if l.IsShort then firstOnLine l.window milestones else .error .numeralTooLong := by
  rw [milestoneForBranch, branchWindow_of_name h]
  split <;> rfl

theorem milestoneForBranch_fault {f : Fault} (h : milestoneForBranch name milestones = .error f) :
    f = .numeralTooLong := by
  rw [milestoneForBranch] at h
  rcases hwindow : branchWindow name with f' | _ | window <;> rw [hwindow] at h
  · obtain rfl := Except.error.inj h
    exact branchWindow_fault hwindow
  · cases h
  · exact (firstOnLine_eq_error_iff.mp h).1

/-! ## The branch of a milestone -/

theorem branchForMilestone_of_other {mainline : Option Milestone} (h : ∀ k ∈ mainline, k.number ≠ m.number)
    (htitle : m.version = .ok (some v)) (mainlineBranch : String) :
    ∃ (branch : String) (l : LineName), branchForMilestone m mainline mainlineBranch = .ok (some branch) ∧
      branch.toList = l.text ∧ l.IsShort ∧ l.window.major = v.major ∧ l.window.minor = v.minor := by
  obtain ⟨p, -, hshort, rfl⟩ := read_eq_some_iff.mp htitle
  obtain ⟨hmajor, hminor⟩ : Text.isWritable p.major.value = true ∧ Text.isWritable p.minor.value = true :=
    ⟨(isWritable_value _).mpr (hshort _ (by simp [Spelling.numerals])),
      (isWritable_value _).mpr (hshort _ (by simp [Spelling.numerals]))⟩
  have hnone : ¬(mainline.any fun k => k.number == m.number) = true := by
    cases mainline with
    | none => simp
    | some k => simpa using h k rfl
  refine ⟨_, ⟨.decimal p.major.value, .decimal p.minor.value⟩, by rw [branchForMilestone, if_neg hnone, htitle]; rfl, ?_,
    ⟨(isWritable_value _).mp hmajor, (isWritable_value _).mp hminor⟩, rfl, rfl⟩
  simp [Spelling.version, LineName.text, Numeral.decimal, String.toList_append, toList_repr]

end RunSteward
