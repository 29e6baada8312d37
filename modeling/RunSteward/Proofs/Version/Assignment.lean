import RunSteward.Proofs.Text.Blank
import RunSteward.Version.Manifest

/-!
# Assignments in a manifest

A manifest is read line by line for the first line that assigns the key. A line that says nothing about the key, be it
blank, a comment, without a mark or about another key (`Idle`), may be put in at any line boundary, and what stands
behind the first assignment is never looked at. The value is all that stands behind the first mark of the line, marks
included, and it is read as a version whatever blanks are around it (`first_assignment_decides`).

Where a line begins or ends, the assignments of a text fall into those before and those behind
(`assignments_append_of_begins`, `assignments_append_of_ends`); everything else is said about single lines.
-/

namespace RunSteward.Manifest

open Text Version

variable {key name value line front back brk : List Char} {mark : Char}

/-- The characters that end a key. -/
def IsMark (c : Char) : Prop :=
  c = '=' ∨ c = ':'

instance : DecidablePred IsMark :=
  fun _ => inferInstanceAs (Decidable (_ ∨ _))

def Unmarked (s : List Char) : Prop :=
  ∀ c ∈ s, ¬IsMark c

instance (s : List Char) : Decidable (Unmarked s) :=
  List.decidableBAll _ s

/-- A line that begins, blanks aside, like a comment. -/
def IsComment (line : List Char) : Prop :=
  ∃ c ∈ (trimChars line).head?, c = '#' ∨ c = '!'

/-- A line that says nothing about a key. -/
inductive Idle (key line : List Char) : Prop where
  | blank (h : ∀ c ∈ line, isBlank c = true)
  | comment (h : IsComment line)
  | unmarked (h : Unmarked line)
  | foreign {name value : List Char} {mark : Char} (hline : line = name ++ mark :: value) (hmark : IsMark mark)
      (hname : Unmarked name) (hkey : trimChars name ≠ key)

/-! ## Single lines -/

theorem IsMark.not_blank (h : IsMark mark) : isBlank mark = false := by
  rcases h with rfl | rfl <;> decide

theorem unmarked_or_marked (line : List Char) :
    Unmarked line ∨ ∃ name mark value, line = name ++ mark :: value ∧ IsMark mark ∧ Unmarked name := by
  induction line with
  | nil => exact .inl (by simp [Unmarked])
  | cons c cs ih =>
    by_cases hc : IsMark c
    · exact .inr ⟨[], c, cs, rfl, hc, by simp [Unmarked]⟩
    · rcases ih with hcs | ⟨name, mark, value, rfl, hmark, hname⟩
      · exact .inl (List.forall_mem_cons.mpr ⟨hc, hcs⟩)
      · exact .inr ⟨c :: name, mark, value, rfl, hmark, List.forall_mem_cons.mpr ⟨hc, hname⟩⟩

theorem splitAssignment?_of_unmarked (h : Unmarked line) : splitAssignment? line = none := by
  induction line with
  | nil => rfl
  | cons c cs ih =>
    obtain ⟨hc, hcs⟩ := List.forall_mem_cons.mp h
    have hkept : ¬(c = '=' ∨ c = ':') := hc
    rw [splitAssignment?, if_neg hkept, ih hcs]
    rfl

theorem splitAssignment?_of_marked (hmark : IsMark mark) (hname : Unmarked name) (value : List Char) :
    splitAssignment? (name ++ mark :: value) = some (name, value) := by
  induction name with
  | nil => exact if_pos hmark
  | cons c cs ih =>
    obtain ⟨hc, hcs⟩ := List.forall_mem_cons.mp hname
    have hkept : ¬(c = '=' ∨ c = ':') := hc
    rw [List.cons_append, splitAssignment?, if_neg hkept, ih hcs]
    rfl

theorem assignment?_of_blank (h : ∀ c ∈ line, isBlank c = true) : assignment? line = none := by
  have hnil : trimChars line = [] := by rw [trimChars, trimLeft_blanks h]; rfl
  rw [assignment?, hnil]

theorem assignment?_of_comment (h : IsComment line) : assignment? line = none := by
  obtain ⟨c, hhead, hc⟩ := h
  obtain ⟨cs, hcs⟩ := List.head?_eq_some_iff.mp hhead
  rw [assignment?, hcs]
  exact if_pos hc

theorem assignment?_of_unmarked (h : Unmarked line) : assignment? line = none := by
  have hrest : Unmarked (trimChars line) := fun c hc => h c ((trimChars_sublist line).mem hc)
  rw [assignment?]
  split
  · rfl
  · rename_i c cs hcs
    rw [hcs] at hrest
    rw [splitAssignment?_of_unmarked hrest, Option.map_none, ite_self]

/-- What a line assigns that is no comment: the text before its first mark is the key, and the text behind it the
value. -/
theorem assignment?_of_marked (hmark : IsMark mark) (hname : Unmarked name)
    (hplain : ¬IsComment (name ++ mark :: value)) :
    assignment? (name ++ mark :: value) = some (trimChars name, trimRight value) := by
  have htrim : trimChars (name ++ mark :: value) = trimLeft name ++ mark :: trimRight value :=
    trimChars_append_cons hmark.not_blank name value
  have hleft : Unmarked (trimLeft name) := fun c hc => hname c ((List.dropWhile_sublist _).mem hc)
  rw [assignment?]
  split
  · rename_i hnil
    simp [htrim] at hnil
  · rename_i c cs hcs
    have hc : ¬(c = '#' ∨ c = '!') := fun hc => hplain ⟨c, by simp [hcs], hc⟩
    rw [if_neg hc, ← hcs, htrim, splitAssignment?_of_marked hmark hleft]
    simp [trimChars_trimLeft]

theorem idle_iff : Idle key line ↔ ∀ p ∈ assignment? line, p.1 ≠ key := by
  constructor
  · intro h
    cases h with
    | blank h => simp [assignment?_of_blank h]
    | comment h => simp [assignment?_of_comment h]
    | unmarked h => simp [assignment?_of_unmarked h]
    | @foreign name value mark hline hmark hname hkey =>
      subst hline
      by_cases hcomment : IsComment (name ++ mark :: value)
      · simp [assignment?_of_comment hcomment]
      · simpa [assignment?_of_marked hmark hname hcomment] using hkey
  · intro h
    rcases unmarked_or_marked line with hline | ⟨name, mark, value, rfl, hmark, hname⟩
    · exact .unmarked hline
    · by_cases hcomment : IsComment (name ++ mark :: value)
      · exact .comment hcomment
      · exact .foreign rfl hmark hname (h _ (assignment?_of_marked hmark hname hcomment))

instance (key line : List Char) : Decidable (Idle key line) :=
  decidable_of_iff _ idle_iff.symm

/-! ## Assignments of a text -/

/-- The assignments of a text, in order. -/
def assignments (text : List Char) : List (List Char × List Char) :=
  (lines text).filterMap assignment?

theorem assignments_breakless (h : Breakless line) : assignments line = (assignment? line).toList := by
  cases line with
  | nil => rfl
  | cons c cs =>
    rw [assignments, lines_breakless h (List.cons_ne_nil c cs)]
    cases hread : assignment? (c :: cs) <;> simp [hread]

/-- Where a line begins, the assignments of a text fall into those before and those behind. -/
theorem assignments_append_of_begins (h : BeginsLine front) (back : List Char) :
    assignments (front ++ back) = assignments front ++ assignments back := by
  obtain ⟨rest, hlines, rfl | rfl⟩ := lines_append h back
  · rw [assignments, hlines, List.filterMap_append, assignments, assignments]
  · -- the line feed of a carriage return in front ends no line there, and an empty line assigns nothing
    have hfeed : assignments ('\n' :: rest) = assignments rest := by
      rw [assignments, lines_break (by decide) (fun h => absurd h (by decide))]
      exact List.filterMap_cons_none rfl
    rw [hfeed, assignments, hlines, List.filterMap_append, assignments, assignments]

theorem assignments_append_break {c : Char} (h : isLineBreak c = true) (front : List Char) :
    assignments (front ++ [c]) = assignments front := by
  obtain ⟨rest, hlines, hrest⟩ := lines_append_break h front
  have hnone : rest.filterMap assignment? = [] :=
    List.filterMap_eq_nil_iff.mpr fun l hl => by rw [hrest l hl]; rfl
  rw [assignments, hlines, List.filterMap_append, hnone, List.append_nil, assignments]

/-- Where a line ends, the assignments of a text fall into those before and those behind. -/
theorem assignments_append_of_ends (h : EndsLine back) (front : List Char) :
    assignments (front ++ back) = assignments front ++ assignments back := by
  cases back with
  | nil => simp [assignments, lines]
  | cons c cs =>
    have hc : isLineBreak c = true := h c rfl
    have hbegins : ∀ s : List Char, BeginsLine (s ++ [c]) := fun s => (IsBreak.single hc).begins s
    have hwhole : ∀ s : List Char, assignments (s ++ c :: cs) = assignments s ++ assignments cs := by
      intro s
      rw [List.append_cons, assignments_append_of_begins (hbegins s), assignments_append_break hc]
    have hback : assignments (c :: cs) = assignments cs := hwhole []
    rw [hwhole, hback]

theorem assignments_append_breaks (h : IsBreak brk) (front : List Char) :
    assignments (front ++ brk) = assignments front := by
  obtain ⟨-, hall⟩ := h
  induction brk generalizing front with
  | nil => rw [List.append_nil]
  | cons c cs ih =>
    obtain ⟨hc, hcs⟩ := List.forall_mem_cons.mp hall
    rw [List.append_cons, ih _ hcs, assignments_append_break hc]

/-! ## The first assignment of a key -/

/-- The first assignment of a key in a text. -/
def first? (text key : List Char) : Option (List Char × List Char) :=
  (assignments text).find? fun p => p.1 == key

theorem version_eq_of_first? {text text' key : String}
    (h : first? text.toList key.toList = first? text'.toList key.toList) : version text key = version text' key := by
  have hvalue : value? text key = value? text' key := congrArg (Option.map Prod.snd) h
  rw [version, version, hvalue]

theorem first?_idle (h : ∀ l ∈ lines front, Idle key l) : first? front key = none := by
  refine List.find?_eq_none.mpr fun p hp => ?_
  obtain ⟨l, hl, hassign⟩ := List.mem_filterMap.mp hp
  simpa using idle_iff.mp (h l hl) p hassign

theorem first?_idle_line (hline : Breakless line) (h : Idle key line) : first? line key = none := by
  rw [first?, assignments_breakless hline]
  refine List.find?_eq_none.mpr fun p hp => ?_
  simpa using idle_iff.mp h p (by simpa using hp)

theorem first?_assigned (hline : Breakless line) (h : ¬Idle key line) : (first? line key).isSome := by
  rw [idle_iff] at h
  push Not at h
  obtain ⟨p, hp, hkey⟩ := h
  rw [first?, assignments_breakless hline]
  simp [Option.mem_def.mp hp, hkey]

theorem first?_append_of_begins (h : BeginsLine front) (back : List Char) :
    first? (front ++ back) key = (first? front key).or (first? back key) := by
  rw [first?, assignments_append_of_begins h, List.find?_append, first?, first?]

theorem first?_append_of_ends (h : EndsLine back) (front : List Char) :
    first? (front ++ back) key = (first? front key).or (first? back key) := by
  rw [first?, assignments_append_of_ends h, List.find?_append, first?, first?]

theorem first?_append_breaks (h : IsBreak brk) (front : List Char) : first? (front ++ brk) key = first? front key := by
  rw [first?, assignments_append_breaks h, first?]

/-- A line put into a text at a line boundary, with the line break that makes it a line of its own: the line ends in
front of what follows, or it is put behind a line that ends there. -/
inductive Inserted (line : String) : String → String → Prop where
  | before (front brk back : String) (hbegins : BeginsLine front.toList) (hbrk : IsBreak brk.toList) :
      Inserted line (front ++ back) (front ++ line ++ brk ++ back)
  | behind (front brk back : String) (hends : EndsLine back.toList) (hbrk : IsBreak brk.toList) :
      Inserted line (front ++ back) (front ++ brk ++ line ++ back)

theorem Inserted.first?_eq {line text text' : String} (h : Inserted line text text') (hline : Breakless line.toList)
    (hidle : Idle key line.toList) : first? text'.toList key = first? text.toList key := by
  cases h with
  | before front brk back hbegins hbrk =>
    have hends : first? (line.toList ++ (brk.toList ++ back.toList)) key = first? back.toList key := by
      rw [← List.append_assoc, first?_append_of_begins (hbrk.begins _), first?_append_breaks hbrk,
        first?_idle_line hline hidle, Option.none_or]
    simp only [String.toList_append, List.append_assoc]
    rw [first?_append_of_begins hbegins, hends, first?_append_of_begins hbegins]
  | behind front brk back hends hbrk =>
    simp only [String.toList_append]
    rw [first?_append_of_ends hends, first?_append_of_begins (hbrk.begins _), first?_append_breaks hbrk,
      first?_idle_line hline hidle, Option.or_none, first?_append_of_ends hends]

/-- Once a line assigns the key, what stands behind it is not looked at. -/
theorem first?_append_of_assigned (hfront : BeginsLine front) (hline : Breakless line) (h : ¬Idle key line)
    (hback : EndsLine back) : first? (front ++ line ++ back) key = (first? front key).or (first? line key) := by
  have hsome : ((first? front key).or (first? line key)).isSome := by
    rw [Option.isSome_or, first?_assigned hline h, Bool.or_true]
  rw [first?_append_of_ends hback, first?_append_of_begins hfront, Option.or_of_isSome hsome]

/-! ## The line that assigns a key -/

/-- A text that can be the key of a line. -/
structure IsKey (key : List Char) : Prop where
  trimmed : Trimmed key
  unmarked : Unmarked key
  breakless : Breakless key
  plain : ∀ c ∈ key.head?, ¬(c = '#' ∨ c = '!')

theorem isKey_iff (key : List Char) : IsKey key ↔
    Trimmed key ∧ Unmarked key ∧ Breakless key ∧ (key.head?.all fun c => !(c == '#' || c == '!')) = true := by
  simp only [Option.all_eq_true, Bool.not_eq_true', Bool.or_eq_false_iff, beq_eq_false_iff_ne, ← not_or]
  exact ⟨fun ⟨htrimmed, hunmarked, hbreakless, hplain⟩ => ⟨htrimmed, hunmarked, hbreakless, hplain⟩,
    fun ⟨htrimmed, hunmarked, hbreakless, hplain⟩ => ⟨htrimmed, hunmarked, hbreakless, hplain⟩⟩

instance (key : List Char) : Decidable (IsKey key) :=
  decidable_of_iff _ (isKey_iff key).symm

/-- Blanks within a line. -/
def IsGap (s : List Char) : Prop :=
  (∀ c ∈ s, isBlank c = true) ∧ Breakless s

instance (s : List Char) : Decidable (IsGap s) :=
  decidable_of_iff ((s.all isBlank) = true ∧ Breakless s) (and_congr_left fun _ => List.all_eq_true)

theorem IsGap.unmarked {gap : List Char} (h : IsGap gap) : Unmarked gap := by
  intro c hc hmark
  have hvisible : isBlank c = false := hmark.not_blank
  rw [h.1 c hc] at hvisible
  cases hvisible

theorem IsMark.breakless (h : IsMark mark) : isLineBreak mark = false := by
  rcases h with rfl | rfl <;> decide

theorem IsKey.assignment? (h : IsKey key) {gap : List Char} (hgap : IsGap gap) (hmark : IsMark mark)
    (value : List Char) :
    Manifest.assignment? (key ++ gap ++ mark :: value) = some (key, trimRight value) := by
  have hname : Unmarked (key ++ gap) := List.forall_mem_append.mpr ⟨h.unmarked, hgap.unmarked⟩
  have htrim : trimChars (key ++ gap) = key := by rw [trimChars_append_blanks hgap.1, h.trimmed.trimChars_eq]
  obtain ⟨c, cs, rfl⟩ := List.exists_cons_of_ne_nil h.trimmed.ne_nil
  have hplain : ¬IsComment (c :: cs ++ gap ++ mark :: value) := by
    have hc : isBlank c = false := h.trimmed.head c rfl
    rintro ⟨d, hd, hcomment⟩
    rw [trimChars_append_cons hmark.not_blank, trimLeft, List.cons_append, List.dropWhile_cons_of_neg (by simp [hc])] at hd
    obtain rfl : c = d := by simpa using hd
    exact h.plain c rfl hcomment
  rw [assignment?_of_marked hmark hname hplain, htrim]

theorem version_of_first (key : String) {front gap gap' s back : String} (hkey : IsKey key.toList)
    (hfront : BeginsLine front.toList) (hidle : ∀ l ∈ lines front.toList, Idle key.toList l)
    (hgap : IsGap gap.toList) (hmark : IsMark mark) (hgap' : IsGap gap'.toList) (hs : Breakless s.toList)
    (hback : EndsLine back.toList) :
    version (front ++ (key ++ gap ++ String.singleton mark ++ gap' ++ s) ++ back) key = Version.read s := by
  have hline : (key ++ gap ++ String.singleton mark ++ gap' ++ s).toList =
      key.toList ++ gap.toList ++ mark :: (gap'.toList ++ s.toList) := by simp
  have hbreakless : Breakless (key.toList ++ gap.toList ++ mark :: (gap'.toList ++ s.toList)) :=
    (hkey.breakless.append hgap.2).append ((hgap'.2.append hs).cons hmark.breakless)
  have hassign := hkey.assignment? hgap hmark (gap'.toList ++ s.toList)
  have hassigned : ¬Idle key.toList (key.toList ++ gap.toList ++ mark :: (gap'.toList ++ s.toList)) :=
    fun hidle => idle_iff.mp hidle _ hassign rfl
  have hfirst : first? (front ++ (key ++ gap ++ String.singleton mark ++ gap' ++ s) ++ back).toList key.toList =
      some (key.toList, trimRight (gap'.toList ++ s.toList)) := by
    rw [String.toList_append, String.toList_append, hline, first?_append_of_assigned hfront hbreakless hassigned hback,
      first?_idle hidle, Option.none_or, first?, assignments_breakless hbreakless, hassign]
    simp
  have hvalue : value? (front ++ (key ++ gap ++ String.singleton mark ++ gap' ++ s) ++ back) key =
      some (trimRight (gap'.toList ++ s.toList)) := congrArg (Option.map Prod.snd) hfirst
  have hspelled : spelled? (String.ofList (trimRight (gap'.toList ++ s.toList))) = spelled? s := by
    rw [spelled?, spelled?, String.toList_ofList, trimChars_trimRight, trimChars_blanks_append hgap'.1]
  rw [version, hvalue]
  simp only [Version.read, hspelled]

/-- **The first assignment of a key decides its version.** An idle line put in at any line boundary changes nothing; the
lines behind one that assigns the key do not matter; and the line of a key, a mark and a text, blanks around the mark
aside, gives the version that the text holds, whatever marks are in the text. -/
theorem first_assignment_decides (key : String) :
    (∀ line text text' : String, Breakless line.toList → Idle key.toList line.toList → Inserted line text text' →
      version text' key = version text key) ∧
    (∀ front line back back' : String, BeginsLine front.toList → Breakless line.toList →
      ¬Idle key.toList line.toList → EndsLine back.toList → EndsLine back'.toList →
      version (front ++ line ++ back') key = version (front ++ line ++ back) key) ∧
    (∀ (front gap gap' s back : String) (mark : Char), IsKey key.toList → BeginsLine front.toList →
      (∀ l ∈ lines front.toList, Idle key.toList l) → IsGap gap.toList → IsMark mark → IsGap gap'.toList →
      Breakless s.toList → EndsLine back.toList →
      version (front ++ (key ++ gap ++ String.singleton mark ++ gap' ++ s) ++ back) key = Version.read s) := by
  refine ⟨fun line text text' hline hidle h => ?_, fun front line back back' hfront hline h hback hback' => ?_,
    fun front gap gap' s back mark hkey hfront hidle hgap hmark hgap' hs hback => ?_⟩
  · exact version_eq_of_first? (h.first?_eq hline hidle)
  · refine version_eq_of_first? ?_
    simp only [String.toList_append]
    rw [first?_append_of_assigned hfront hline h hback', first?_append_of_assigned hfront hline h hback]
  · exact version_of_first key hkey hfront hidle hgap hmark hgap' hs hback

/-- The version in a list of properties, with a comment put on top and with a second assignment at the end. -/
theorem properties_version :
    version "! generated\nname=steward\nversion = 2.4.1" "version" = version "name=steward\nversion = 2.4.1" "version" ∧
    version "name=steward\nversion = 2.4.1\nversion=9.9" "version" = version "name=steward\nversion = 2.4.1" "version" ∧
    version "name=steward\nversion = 2.4.1" "version" = Version.read "2.4.1" := by
  obtain ⟨inserted, behind, assigned⟩ := first_assignment_decides "version"
  refine ⟨?_, ?_, ?_⟩
  · exact inserted "! generated" _ _ (by decide) (.comment ⟨'!', by decide +kernel, .inr rfl⟩)
      (.before "" "\n" "name=steward\nversion = 2.4.1" (by decide) (by decide))
  · exact behind "name=steward\n" "version = 2.4.1" "" "\nversion=9.9" (by decide) (by decide) (by decide +kernel)
      (by decide) (by decide)
  · exact assigned "name=steward\n" " " " " "2.4.1" "" '=' (by decide +kernel) (by decide) (by decide +kernel)
      (by decide +kernel) (by decide) (by decide +kernel) (by decide) (by decide)

end RunSteward.Manifest
