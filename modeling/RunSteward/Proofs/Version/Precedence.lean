import Mathlib.Data.List.Lex
import RunSteward.Proofs.Text.Line
import RunSteward.Proofs.Version.Grammar
import RunSteward.Proofs.Version.Mainline

/-!
# The precedence of prereleases

Semantic versioning orders prereleases by their identifiers, from left to right (`ReleasedBefore`); the order of
versions
compares them as texts. The two go apart at the first identifiers that differ: where one of them precedes the other but
comes later as a text, or where the other one goes on with a hyphen and so slips in front of the point behind the first
(`Swapped`). Everywhere else they agree (`lt_iff_releasedBefore_iff`).
-/

namespace RunSteward.Version

open Text

variable {x y : List Char} {I J : List (List Char)} {a b : Version}

/-! ## Identifiers -/

/-- The identifiers of a prerelease, the parts between its points. -/
def identifiers (v : Version) : List (List Char) :=
  fields '.' v.prerelease.toList

/-- Tells that an identifier consists of digits only. -/
def IsNumber (x : List Char) : Prop :=
  ∀ c ∈ x, c.isDigit = true

instance (x : List Char) : Decidable (IsNumber x) :=
  List.decidableBAll _ x

/-- The number that a row of digits stands for. -/
def number (x : List Char) : Nat :=
  Nat.ofDigitChars 10 x 0

/-- The order of identifiers: numbers by their size and in front of all words, and words by their characters. -/
inductive Before (x y : List Char) : Prop
  | numbers (hx : IsNumber x) (hy : IsNumber y) (h : number x < number y)
  | word (hx : IsNumber x) (hy : ¬IsNumber y)
  | words (hx : ¬IsNumber x) (hy : ¬IsNumber y) (h : x < y)

/-- An identifier as semantic versioning asks for it: not empty, of letters, digits and hyphens, and without a leading
zero
if it is a number. -/
structure IsIdentifier (x : List Char) : Prop where
  ne_nil : x ≠ []
  valid : ∀ c ∈ x, isNameChar c = true ∧ c ≠ '.'
  no_leading_zero : IsNumber x → x.head? = some '0' → x = ['0']

instance (x : List Char) : Decidable (IsIdentifier x) :=
  haveI : Decidable (∀ c ∈ x, isNameChar c = true ∧ c ≠ '.') := List.decidableBAll _ x
  decidable_of_iff
    (x ≠ [] ∧ (∀ c ∈ x, isNameChar c = true ∧ c ≠ '.') ∧ (IsNumber x → x.head? = some '0' → x = ['0']))
    ⟨fun ⟨h₁, h₂, h₃⟩ => ⟨h₁, h₂, h₃⟩, fun ⟨h₁, h₂, h₃⟩ => ⟨h₁, h₂, h₃⟩⟩

/-- A version whose prerelease, if it has one, is made of identifiers. -/
def Semantic (v : Version) : Prop :=
  v.prerelease ≠ "" → ∀ x ∈ v.identifiers, IsIdentifier x

instance (v : Version) : Decidable v.Semantic :=
  inferInstanceAs (Decidable (_ → _))

/-- The precedence of semantic versioning. Of prereleases of one version the first identifiers that differ decide, and a
row of identifiers precedes every longer one that begins with it. -/
inductive ReleasedBefore (a b : Version) : Prop
  | major (h : a.major < b.major)
  | minor (hmajor : a.major = b.major) (h : a.minor < b.minor)
  | patch (hmajor : a.major = b.major) (hminor : a.minor = b.minor) (h : a.patch < b.patch)
  | release (hmajor : a.major = b.major) (hminor : a.minor = b.minor) (hpatch : a.patch = b.patch)
      (h : a.prerelease ≠ "") (h' : b.prerelease = "")
  | prerelease (hmajor : a.major = b.major) (hminor : a.minor = b.minor) (hpatch : a.patch = b.patch)
      (h : a.prerelease ≠ "") (h' : b.prerelease ≠ "") (hlex : List.Lex Before a.identifiers b.identifiers)

/-- Rows of identifiers, the first of which precedes the second one but comes later as a text. -/
inductive Swapped : List (List Char) → List (List Char) → Prop
  | later {I J : List (List Char)} (x : List Char) (h : Swapped I J) : Swapped (x :: I) (x :: J)
  | text {x y : List Char} (I J : List (List Char)) (h : Before x y) (hlt : y < x) : Swapped (x :: I) (y :: J)
  | hyphen (x t z : List Char) (I J : List (List Char)) : Swapped (x :: z :: I) ((x ++ '-' :: t) :: J)

/-! ## Numbers -/

theorem number_le_append (x t : List Char) : number x ≤ number (x ++ t) := by
  have hpow : 0 < 10 ^ t.length := Nat.pow_pos (by decide)
  rw [number, number, Nat.ofDigitChars_append, Nat.ofDigitChars_eq_ofDigitChars_zero (l := t)]
  exact Nat.le_add_right_of_le (Nat.le_mul_of_pos_left _ hpow)

theorem exists_digit {c : Char} (h : c.isDigit = true) : ∃ k, k < 10 ∧ c = Nat.digitChar k := by
  have hrange := asciiDigit_iff_range.mp h
  exact ⟨c.toNat - 48, by omega, eq_digitChar hrange⟩

theorem number_concat {k : Nat} (hk : k < 10) (x : List Char) : number (x ++ [Nat.digitChar k]) = 10 * number x + k := by
  rw [number, Nat.ofDigitChars_append, Nat.ofDigitChars_cons, Nat.ofDigitChars_nil, Nat.toNat_digitChar_of_lt_ten hk]
  show 10 * number x + (48 + k - 48) = 10 * number x + k
  omega

/-- A number without a leading zero is the decimal text of what it stands for. -/
theorem toDigits_number (hne : x ≠ []) (hx : IsNumber x) (hzero : x.head? = some '0' → x = ['0']) :
    Nat.toDigits 10 (number x) = x := by
  induction x using List.reverseRecOn with
  | nil => exact absurd rfl hne
  | append_singleton x c ih =>
    obtain ⟨k, hk, rfl⟩ := exists_digit (hx c (by simp))
    rw [number_concat hk]
    cases x with
    | nil => simp [number, Nat.toDigits_of_lt_base hk]
    | cons d x =>
      have hfirst : d ≠ '0' := fun hd => by simpa using hzero (by simp [hd])
      have hfront := ih (by simp) (fun c hc => hx c (List.mem_append_left _ hc))
        (fun hd => absurd (Option.some.inj hd) hfirst)
      -- without a leading zero the digits in front stand for a positive number
      have hpos : 0 < number (d :: x) := by
        refine Nat.pos_of_ne_zero fun hnone => ?_
        rw [hnone] at hfront
        exact hfirst (List.cons.inj hfront).1.symm
      rw [← Nat.toDigits_append_toDigits (by decide) hpos hk, hfront, Nat.toDigits_of_lt_base hk]

/-! ## The order of identifiers -/

theorem before_asymm (h : Before x y) : ¬Before y x := by
  intro h'
  cases h with
  | numbers hx hy hlt =>
    cases h' with
    | numbers _ _ hlt' => exact lt_asymm hlt hlt'
    | word _ hx' => exact hx' hx
    | words _ hx' _ => exact hx' hx
  | word hx hy =>
    cases h' with
    | numbers hy' _ _ => exact hy hy'
    | word hy' _ => exact hy hy'
    | words _ hx' _ => exact hx' hx
  | words hx hy hlt =>
    cases h' with
    | numbers _ hx' _ => exact hx hx'
    | word hy' _ => exact hy hy'
    | words _ _ hlt' => exact lt_asymm hlt hlt'

theorem before_trichotomy (hx : IsIdentifier x) (hy : IsIdentifier y) : x = y ∨ Before x y ∨ Before y x := by
  by_cases hnx : IsNumber x
  · by_cases hny : IsNumber y
    · rcases lt_trichotomy (number x) (number y) with hlt | heq | hgt
      · exact .inr (.inl (.numbers hnx hny hlt))
      · refine .inl ?_
        rw [← toDigits_number hx.ne_nil hnx (hx.no_leading_zero hnx), heq,
          toDigits_number hy.ne_nil hny (hy.no_leading_zero hny)]
      · exact .inr (.inr (.numbers hny hnx hgt))
    · exact .inr (.inl (.word hnx hny))
  · by_cases hny : IsNumber y
    · exact .inr (.inr (.word hny hnx))
    · rcases lt_trichotomy x y with hlt | heq | hgt
      · exact .inr (.inl (.words hnx hny hlt))
      · exact .inl heq
      · exact .inr (.inr (.words hny hnx hgt))

theorem lex_trichotomy (hI : ∀ x ∈ I, IsIdentifier x) (hJ : ∀ y ∈ J, IsIdentifier y) :
    I = J ∨ List.Lex Before I J ∨ List.Lex Before J I := by
  induction I generalizing J with
  | nil =>
    cases J with
    | nil => exact .inl rfl
    | cons y J => exact .inr (.inl .nil)
  | cons x I ih =>
    cases J with
    | nil => exact .inr (.inr .nil)
    | cons y J =>
      rcases before_trichotomy (hI x (by simp)) (hJ y (by simp)) with rfl | h | h
      · rcases ih (fun z hz => hI z (by simp [hz])) (J := J) (fun z hz => hJ z (by simp [hz])) with rfl | h | h
        · exact .inl rfl
        · exact .inr (.inl (.cons h))
        · exact .inr (.inr (.cons h))
      · exact .inr (.inl (.rel h))
      · exact .inr (.inr (.rel h))

theorem lex_of_swapped (h : Swapped I J) : List.Lex Before I J := by
  induction h with
  | later x h ih => exact .cons ih
  | text I J h hlt => exact .rel h
  | hyphen x t z I J =>
    have hword : ¬IsNumber (x ++ '-' :: t) := fun h => absurd (h '-' (by simp)) (by decide)
    refine .rel ?_
    by_cases hx : IsNumber x
    · exact .word hx hword
    · have hlt : x ++ [] < x ++ '-' :: t := List.append_left_lt .nil
      exact .words hx hword (by rwa [List.append_nil] at hlt)

/-! ## Texts with a common front -/

theorem lt_cases (h : x < y) : (∃ c t, y = x ++ c :: t) ∨
    ∃ front c d s t, c < d ∧ x = front ++ c :: s ∧ y = front ++ d :: t := by
  replace h : List.Lex (· < ·) x y := h
  induction h with
  | nil => exact .inl ⟨_, _, rfl⟩
  | rel h => exact .inr ⟨[], _, _, _, _, h, rfl, rfl⟩
  | cons h ih =>
    rcases ih with ⟨c, t, rfl⟩ | ⟨front, c, d, s, t, hlt, rfl, rfl⟩
    · exact .inl ⟨c, t, rfl⟩
    · exact .inr ⟨_ :: front, c, d, s, t, hlt, rfl, rfl⟩

theorem append_lt_of_lt {c d : Char} (h : c < d) (front s t : List Char) : front ++ c :: s < front ++ d :: t :=
  List.append_left_lt (List.Lex.rel h)

/-- The text of identifiers behind others. -/
def dotted (I : List (List Char)) : List Char :=
  I.flatMap fun x => '.' :: x

theorem dotted_cons_lt (x : List Char) (h : dotted I < dotted J) : dotted (x :: I) < dotted (x :: J) := by
  rw [dotted, dotted, List.flatMap_cons, List.flatMap_cons]
  exact List.append_left_lt h

theorem point_lt {c : Char} (h : isNameChar c = true) (hpoint : c ≠ '.') (hhyphen : c ≠ '-') : '.' < c := by
  have hlt : 46 < c.toNat := by
    rcases bounds_of_isNameChar h with h | h | h
    · omega
    · exact absurd h hpoint
    · exact absurd h hhyphen
  exact hlt

theorem dotted_lt_of_lex (hJ : ∀ y ∈ J, IsIdentifier y) (h : List.Lex Before I J) (hswapped : ¬Swapped I J) :
    dotted I < dotted J := by
  induction h with
  | nil => exact List.Lex.nil
  | cons h ih =>
    exact dotted_cons_lt _ (ih (fun y hy => hJ y (by simp [hy])) fun h => hswapped (.later _ h))
  | @rel x I y J h =>
    have hlt : x < y := by
      rcases lt_trichotomy x y with hlt | rfl | hgt
      · exact hlt
      · exact absurd h (before_asymm h)
      · exact absurd (.text I J h hgt) hswapped
    rcases lt_cases hlt with ⟨c, t, rfl⟩ | ⟨front, c, d, s, t, hcd, rfl, rfl⟩
    · cases I with
      | nil =>
        have hshort : '.' :: x ++ [] < '.' :: x ++ c :: (t ++ dotted J) := List.append_left_lt .nil
        simpa [dotted] using hshort
      | cons z I =>
        obtain ⟨hname, hpoint⟩ := (hJ (x ++ c :: t) (by simp)).valid c (by simp)
        have hhyphen : c ≠ '-' := by
          rintro rfl
          exact hswapped (.hyphen x t z I J)
        have hapart := append_lt_of_lt (point_lt hname hpoint hhyphen) ('.' :: x) (z ++ dotted I) (t ++ dotted J)
        simpa [dotted] using hapart
    · have hapart := append_lt_of_lt hcd ('.' :: front) (s ++ dotted I) (t ++ dotted J)
      simpa [dotted] using hapart

theorem dotted_lt_of_swapped (h : Swapped I J) : dotted J < dotted I := by
  induction h with
  | later x h ih => exact dotted_cons_lt x ih
  | text I J h hlt =>
    rcases lt_cases hlt with ⟨c, t, rfl⟩ | ⟨front, c, d, s, t, hcd, rfl, rfl⟩
    · -- what begins with an identifier does not precede it
      exfalso
      cases h with
      | numbers hx hy h => exact absurd (number_le_append _ _) (not_le.mpr h)
      | word hx hy => exact hy fun d hd => hx d (List.mem_append_left _ hd)
      | words hx hy h => exact lt_asymm h hlt
    · have hapart := append_lt_of_lt hcd ('.' :: front) (s ++ dotted J) (t ++ dotted I)
      simpa [dotted] using hapart
  | hyphen x t z I J =>
    have hapart := append_lt_of_lt (by decide : '-' < '.') ('.' :: x) (t ++ dotted J) (z ++ dotted I)
    simpa [dotted] using hapart

/-- Two rows of identifiers are in the same order as their texts exactly if they are not swapped. -/
theorem dotted_lt_iff_lex_iff (hI : ∀ x ∈ I, IsIdentifier x) (hJ : ∀ y ∈ J, IsIdentifier y) :
    (dotted I < dotted J ↔ List.Lex Before I J) ↔ ¬(Swapped I J ∨ Swapped J I) := by
  constructor
  · rintro hagree (h | h)
    · exact lt_asymm (hagree.mpr (lex_of_swapped h)) (dotted_lt_of_swapped h)
    · exact List.lex_asymm before_asymm (hagree.mp (dotted_lt_of_swapped h)) (lex_of_swapped h)
  · rw [not_or]
    rintro ⟨hleft, hright⟩
    refine ⟨fun hlt => ?_, fun h => dotted_lt_of_lex hJ h hleft⟩
    rcases lex_trichotomy hI hJ with rfl | h | h
    · exact absurd hlt (lt_irrefl _)
    · exact h
    · exact absurd (dotted_lt_of_lex hI h hright) (lt_asymm hlt)

/-! ## Versions -/

theorem dotted_identifiers (v : Version) : dotted v.identifiers = '.' :: v.prerelease.toList := by
  have hjoined := intercalate_fields '.' v.prerelease.toList
  obtain ⟨x, I, hfields⟩ := List.exists_cons_of_ne_nil (fields_ne_nil '.' v.prerelease.toList)
  rw [hfields, intercalate_cons] at hjoined
  rw [identifiers, hfields, dotted, List.flatMap_cons, List.cons_append, hjoined]

theorem prerelease_lt_iff : a.prerelease < b.prerelease ↔ dotted a.identifiers < dotted b.identifiers := by
  rw [dotted_identifiers, dotted_identifiers, String.lt_iff_toList_lt, List.cons_lt_cons_iff]
  simp

/-- Two prereleases of one version. -/
structure Siblings (a b : Version) : Prop where
  major : a.major = b.major
  minor : a.minor = b.minor
  patch : a.patch = b.patch
  left : a.prerelease ≠ ""
  right : b.prerelease ≠ ""

/-- Two prereleases of one version whose identifiers are in another order than their texts. -/
structure Astray (a b : Version) : Prop extends Siblings a b where
  swapped : Swapped a.identifiers b.identifiers ∨ Swapped b.identifiers a.identifiers

theorem Siblings.precedes_iff (h : a.Siblings b) : a.Precedes b ↔ a.prerelease < b.prerelease := by
  constructor
  · rintro (hmajor | ⟨-, hminor⟩ | ⟨-, -, hpatch⟩ | ⟨-, -, -, -, hnone⟩ | ⟨-, -, -, -, hlt⟩)
    · exact absurd h.major hmajor.ne
    · exact absurd h.minor hminor.ne
    · exact absurd h.patch hpatch.ne
    · exact absurd hnone h.right
    · exact hlt
  · exact .prerelease h.major h.minor h.patch h.left

theorem Siblings.releasedBefore_iff (h : a.Siblings b) :
    a.ReleasedBefore b ↔ List.Lex Before a.identifiers b.identifiers := by
  constructor
  · rintro (hmajor | ⟨-, hminor⟩ | ⟨-, -, hpatch⟩ | ⟨-, -, -, -, hnone⟩ | ⟨-, -, -, -, -, hlex⟩)
    · exact absurd h.major hmajor.ne
    · exact absurd h.minor hminor.ne
    · exact absurd h.patch hpatch.ne
    · exact absurd hnone h.right
    · exact hlex
  · exact .prerelease h.major h.minor h.patch h.left h.right

/-- Only among the prereleases of one version the identifiers are looked at. -/
theorem precedes_iff_releasedBefore (h : ¬a.Siblings b) : a.Precedes b ↔ a.ReleasedBefore b := by
  constructor
  · rintro (hlt | ⟨hmajor, hlt⟩ | ⟨hmajor, hminor, hlt⟩ | ⟨hmajor, hminor, hpatch, hleft, hright⟩ |
      ⟨hmajor, hminor, hpatch, hleft, hlt⟩)
    · exact .major hlt
    · exact .minor hmajor hlt
    · exact .patch hmajor hminor hlt
    · exact .release hmajor hminor hpatch hleft hright
    · refine absurd ⟨hmajor, hminor, hpatch, hleft, fun hnone => ?_⟩ h
      rw [hnone, String.lt_iff_toList_lt] at hlt
      exact List.not_lt_nil _ hlt
  · rintro (hlt | ⟨hmajor, hlt⟩ | ⟨hmajor, hminor, hlt⟩ | ⟨hmajor, hminor, hpatch, hleft, hright⟩ |
      ⟨hmajor, hminor, hpatch, hleft, hright, -⟩)
    · exact .major hlt
    · exact .minor hmajor hlt
    · exact .patch hmajor hminor hlt
    · exact .release hmajor hminor hpatch hleft hright
    · exact absurd ⟨hmajor, hminor, hpatch, hleft, hright⟩ h

theorem lt_iff_releasedBefore_iff (ha : a.Semantic) (hb : b.Semantic) :
    (a.lt b = true ↔ a.ReleasedBefore b) ↔ ¬a.Astray b := by
  rw [lt_iff_precedes]
  by_cases h : a.Siblings b
  · rw [h.precedes_iff, h.releasedBefore_iff, prerelease_lt_iff, dotted_lt_iff_lex_iff (ha h.left) (hb h.right)]
    exact not_congr ⟨.mk h, Astray.swapped⟩
  · exact iff_of_true (precedes_iff_releasedBefore h) fun hastray => h hastray.toSiblings

/-- **Where the order of versions is that of semantic versioning.** Of versions whose prereleases are made of
identifiers,
two are ordered by their precedence exactly if they do not go astray: if they are prereleases of one version, the first
identifiers that differ must not be such that one precedes the other but comes later as a text, nor such that one goes
on
with a hyphen where the other one ends and has another identifier behind it. So a milestone is chosen for the main
branch
whenever one is planned on the line, unless an overlong title breaks the choice off, and another one of the line is
released
before it exactly if the two go astray. -/
theorem semantic_order (a b current : Version) (milestones : List Milestone) :
    (a.Semantic → b.Semantic → ((a.lt b = true ↔ a.ReleasedBefore b) ↔ ¬a.Astray b)) ∧
    (∀ f, milestoneForMainline current milestones = .error f ↔
      f = .numeralTooLong ∧ ∃ m ∈ milestones, m.Overlong) ∧
    (milestoneForMainline current milestones = .ok none ↔
      (∀ m ∈ milestones, ¬m.Overlong) ∧ ∀ m ∈ milestones, ∀ w, ¬m.Plans current w) ∧
    ∀ m, milestoneForMainline current milestones = .ok (some m) → ∃ w, m ∈ milestones ∧ m.Plans current w ∧
      (w.Semantic → ∀ n ∈ milestones, ∀ w', n.Plans current w' → w'.Semantic →
        (w'.ReleasedBefore w ↔ w'.Astray w)) := by
  refine ⟨lt_iff_releasedBefore_iff, fun f => milestoneForMainline_eq_error_iff, ?_, ?_⟩
  · rw [milestoneForMainline_eq_ok_iff, earliest_eq_none]
  intro m hchosen
  obtain ⟨w, hmem, hplans, hfirst⟩ := earliest_first (milestoneForMainline_eq_ok_iff.mp hchosen).2
  refine ⟨w, hmem, hplans, fun hw n hn w' hplans' hw' => ?_⟩
  have hleast : ¬w'.lt w = true := by
    rw [lt_iff_rank]
    rcases hfirst n hn w' hplans' with hprecedes | ⟨rfl, -⟩
    · rw [← lt_iff_precedes, lt_iff_rank] at hprecedes
      exact lt_asymm hprecedes
    · exact lt_irrefl _
  have hagree := lt_iff_releasedBefore_iff hw' hw
  rw [iff_false_left hleast] at hagree
  exact not_iff_not.mp hagree

theorem second_released_before_eleventh : ReleasedBefore ⟨1, 0, 0, "beta.2"⟩ ⟨1, 0, 0, "beta.11"⟩ := by
  have hsecond : identifiers ⟨1, 0, 0, "beta.2"⟩ = ["beta".toList, "2".toList] := by decide +kernel
  have heleventh : identifiers ⟨1, 0, 0, "beta.11"⟩ = ["beta".toList, "11".toList] := by decide +kernel
  refine .prerelease rfl rfl rfl (by decide) (by decide) ?_
  rw [hsecond, heleventh]
  exact .cons (.rel (.numbers (by decide) (by decide) (by decide)))

/-- The second and the eleventh candidate of a release. -/
def betaMilestones : List Milestone :=
  [⟨1, "1.0.0-beta.2", "open", none⟩, ⟨2, "1.0.0-beta.11", "open", none⟩]

theorem eleventh_chosen :
    milestoneForMainline ⟨1, 0, 0, ""⟩ betaMilestones = .ok (some ⟨2, "1.0.0-beta.11", "open", none⟩) := by
  have hread : ∀ m ∈ betaMilestones, ¬m.Overlong := by
    have htitles : ∀ m ∈ betaMilestones, m.version ≠ .error .numeralTooLong := by decide +kernel
    exact fun m hm hlong => htitles m hm hlong.title
  have hplans : Milestone.Plans ⟨1, 0, 0, ""⟩ ⟨2, "1.0.0-beta.11", "open", none⟩ ⟨1, 0, 0, "beta.11"⟩ :=
    ⟨by decide, by decide +kernel, rfl, rfl⟩
  have hleast : ∀ n ∈ betaMilestones, ∀ w ∈ n.version.toOption.join,
      n = ⟨2, "1.0.0-beta.11", "open", none⟩ ∨ lt ⟨1, 0, 0, "beta.11"⟩ w = true := by
    decide +kernel
  rw [milestoneForMainline_eq hread, earliest_of_least (by decide) hplans]
  intro n hn w hplans
  exact hleast n hn w (by rw [hplans.title]; rfl)

/-- A number and a word are ordered as texts. Two numbers of different lengths are not, so the eleventh candidate is
chosen
although the second one is released before it. -/
theorem semantic_order_numbers :
    ¬Astray ⟨1, 0, 0, "alpha.1"⟩ ⟨1, 0, 0, "alpha.beta"⟩ ∧ Astray ⟨1, 0, 0, "beta.2"⟩ ⟨1, 0, 0, "beta.11"⟩ := by
  obtain ⟨horder, -, -, hchoice⟩ :=
    semantic_order ⟨1, 0, 0, "alpha.1"⟩ ⟨1, 0, 0, "alpha.beta"⟩ ⟨1, 0, 0, ""⟩ betaMilestones
  constructor
  · have hnumber : identifiers ⟨1, 0, 0, "alpha.1"⟩ = ["alpha".toList, "1".toList] := by decide +kernel
    have hword : identifiers ⟨1, 0, 0, "alpha.beta"⟩ = ["alpha".toList, "beta".toList] := by decide +kernel
    refine (horder (by decide +kernel) (by decide +kernel)).mp (iff_of_true (by decide +kernel) ?_)
    refine .prerelease rfl rfl rfl (by decide) (by decide) ?_
    rw [hnumber, hword]
    exact .cons (.rel (.word (by decide) (by decide)))
  · have hsecond : Milestone.Plans ⟨1, 0, 0, ""⟩ ⟨1, "1.0.0-beta.2", "open", none⟩ ⟨1, 0, 0, "beta.2"⟩ :=
      ⟨by decide, by decide +kernel, rfl, rfl⟩
    have heleventh : read "1.0.0-beta.11" = .ok (some ⟨1, 0, 0, "beta.11"⟩) := by decide +kernel
    obtain ⟨w, -, hplans, hbefore⟩ := hchoice _ eleventh_chosen
    obtain rfl : ⟨1, 0, 0, "beta.11"⟩ = w := Option.some.inj (Except.ok.inj (heleventh.symm.trans hplans.title))
    exact (hbefore (by decide +kernel) _ (by decide) _ hsecond (by decide +kernel)).mp second_released_before_eleventh

/-- The eleventh candidate comes first in the order of versions, and is chosen for the main branch. -/
theorem eleventh_before_second :
    read "1.0.0-beta.2" = .ok (some ⟨1, 0, 0, "beta.2"⟩) ∧ read "1.0.0-beta.11" = .ok (some ⟨1, 0, 0, "beta.11"⟩) ∧
      Semantic ⟨1, 0, 0, "beta.2"⟩ ∧ Semantic ⟨1, 0, 0, "beta.11"⟩ ∧
      ReleasedBefore ⟨1, 0, 0, "beta.2"⟩ ⟨1, 0, 0, "beta.11"⟩ ∧ lt ⟨1, 0, 0, "beta.2"⟩ ⟨1, 0, 0, "beta.11"⟩ = false ∧
      milestoneForMainline ⟨1, 0, 0, ""⟩ betaMilestones = .ok (some ⟨2, "1.0.0-beta.11", "open", none⟩) :=
  ⟨by decide +kernel, by decide +kernel, by decide +kernel, by decide +kernel, second_released_before_eleventh,
    by decide +kernel, eleventh_chosen⟩

end RunSteward.Version
