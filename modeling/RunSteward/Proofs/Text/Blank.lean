import Mathlib.Data.List.Chain
import Mathlib.Data.List.DropRight
import RunSteward.Proofs.Text.Line
import RunSteward.Text.Digit
import RunSteward.Text.Excerpt

/-!
# Words and blanks

Every line break is a blank (`isBlank_of_isLineBreak`), so a text without blanks ends no line. A short text whose words
stand apart by single spaces is tidy, and the log shows it as it stands (`Tidy.squash`). Trimming leaves a text without
blanks alone (`Unbroken.trimChars`), and nothing that has been trimmed has anything left to trim (`trimmed_trimChars`).
Blanks put around a text are trimmed off again (`trimChars_blanks_append`, `trimChars_append_blanks`).
-/

namespace RunSteward.Text

def Unbroken (s : List Char) : Prop :=
  ∀ c ∈ s, isBlank c = false

instance (s : List Char) : Decidable (Unbroken s) :=
  List.decidableBAll _ s

theorem isBlank_of_isLineBreak {c : Char} (h : isLineBreak c = true) : isBlank c = true := by
  have hall : ['\n', '\r', '\x0b', '\x0c', '\x1c', '\x1d', '\x1e', '\u0085', '\u2028', '\u2029'].all isBlank = true :=
    by decide
  exact List.all_eq_true.mp hall c (by simpa [isLineBreak] using h)

theorem isLineBreak_of_visible {c : Char} (h : 0x20 ≤ c.toNat ∧ c.toNat ≤ 0x7e) : isLineBreak c = false := by
  rw [isLineBreak, decide_eq_false_iff_not]
  intro hmem
  have hoff : c.toNat < 0x20 ∨ 0x7e < c.toNat := by
    simp only [List.mem_cons, List.not_mem_nil, or_false] at hmem
    rcases hmem with rfl | rfl | rfl | rfl | rfl | rfl | rfl | rfl | rfl | rfl <;> decide
  omega

theorem asciiDigit_iff_range {c : Char} : c.isDigit = true ↔ 48 ≤ c.toNat ∧ c.toNat ≤ 57 := by
  change (decide (48 ≤ c.toNat) && decide (c.toNat ≤ 57)) = true ↔ _
  simp

theorem bounds_of_isAlphanum {c : Char} (h : c.isAlphanum = true) : 0x30 ≤ c.toNat ∧ c.toNat ≤ 0x7a := by
  have hupper : c.isUpper = true ↔ 65 ≤ c.toNat ∧ c.toNat ≤ 90 := by
    change decide (65 ≤ c.toNat ∧ c.toNat ≤ 90) = true ↔ _
    simp
  have hlower : c.isLower = true ↔ 97 ≤ c.toNat ∧ c.toNat ≤ 122 := by
    change (decide (97 ≤ c.toNat) && decide (c.toNat ≤ 122)) = true ↔ _
    simp
  change (c.isUpper || c.isLower || c.isDigit) = true at h
  simp only [Bool.or_eq_true, hupper, hlower, asciiDigit_iff_range] at h
  omega

variable {s : List Char} {c d : Char}

theorem Unbroken.breakless (h : Unbroken s) : Breakless s := by
  intro c hc
  cases hbreak : Text.isLineBreak c with
  | false => rfl
  | true => exact absurd (isBlank_of_isLineBreak hbreak) (by simp [h c hc])

/-- What may stand behind a word: nothing, or something behind a space. -/
def Stops (rest : List Char) : Prop :=
  ∀ c ∈ rest.head?, c = ' '

theorem Unbroken.takeWhile_append {rest : List Char} (h : Unbroken s) (hrest : Stops rest) :
    (s ++ rest).takeWhile (· != ' ') = s := by
  have hword : ∀ c ∈ s, (c != ' ') = true := by
    intro c hc
    rw [bne_iff_ne]
    rintro rfl
    exact absurd (h ' ' hc) (by decide)
  have hend : rest.takeWhile (· != ' ') = [] := by
    cases rest with
    | nil => rfl
    | cons c rest => simp [hrest c rfl]
  rw [List.takeWhile_append_of_pos hword, hend, List.append_nil]

/-! ## Tidy texts -/

/-- A text without other white space than spaces. -/
def Spaced (s : List Char) : Prop :=
  ∀ c ∈ s, isBlank c = true → c = ' '

instance (s : List Char) : Decidable (Spaced s) :=
  List.decidableBAll _ s

/-- A short text of words with single spaces between them. -/
structure Tidy (s : List Char) : Prop where
  ne_nil : s ≠ []
  spaced : Spaced s
  head_ne : s.head? ≠ some ' '
  last_ne : s.getLast? ≠ some ' '
  apart : s.IsChain fun c d => ¬(c = ' ' ∧ d = ' ')
  short : s.length ≤ 120

instance (s : List Char) : Decidable (Tidy s) :=
  decidable_of_iff
    (s ≠ [] ∧ Spaced s ∧ s.head? ≠ some ' ' ∧ s.getLast? ≠ some ' ' ∧
      (s.IsChain fun c d => ¬(c = ' ' ∧ d = ' ')) ∧ s.length ≤ 120)
    ⟨fun ⟨h₁, h₂, h₃, h₄, h₅, h₆⟩ => ⟨h₁, h₂, h₃, h₄, h₅, h₆⟩, fun ⟨h₁, h₂, h₃, h₄, h₅, h₆⟩ => ⟨h₁, h₂, h₃, h₄, h₅, h₆⟩⟩

theorem words_blank (hc : isBlank c = true) (s : List Char) : words (c :: s) = words s := by
  rw [words.eq_def]
  exact if_pos hc

theorem words_glued (hc : isBlank c = false) (hd : isBlank d = false) (s : List Char) :
    ∃ w ws, words (d :: s) = w :: ws ∧ words (c :: d :: s) = (c :: w) :: ws := by
  have hne : words (d :: s) ≠ [] := by
    rw [words.eq_def]
    simp only [hd, Bool.false_eq_true, if_false]
    repeat' split
    all_goals simp
  obtain ⟨w, ws, hw⟩ := List.exists_cons_of_ne_nil hne
  refine ⟨w, ws, hw, ?_⟩
  rw [words.eq_def]
  simp [hc, hd, hw]

theorem words_parted (hc : isBlank c = false) (hd : isBlank d = true) (s : List Char) :
    words (c :: d :: s) = [c] :: words s := by
  rw [words.eq_def]
  simp [hc, hd, words_blank hd]

/-- Where single spaces stand between words, no space but those in front is lost. -/
theorem collapse_eq_trimLeft (hblank : Spaced s) (hlast : s.getLast? ≠ some ' ')
    (hapart : s.IsChain fun c d => ¬(c = ' ' ∧ d = ' ')) : collapse s = trimLeft s := by
  induction s with
  | nil => rfl
  | cons c cs ih =>
    have hrest : cs ≠ [] → collapse cs = trimLeft cs := fun hne => by
      refine ih (fun x hx => hblank x (List.mem_cons_of_mem _ hx)) ?_ hapart.tail
      obtain ⟨d, ds, rfl⟩ := List.exists_cons_of_ne_nil hne
      simpa using hlast
    cases hc : isBlank c with
    | true =>
      have hne : cs ≠ [] := by
        rintro rfl
        obtain rfl := hblank c (by simp) hc
        exact hlast rfl
      rw [collapse, words_blank hc, ← collapse, hrest hne, trimLeft, trimLeft, List.dropWhile_cons_of_pos hc]
    | false =>
      rw [trimLeft, List.dropWhile_cons_of_neg (by simp [hc])]
      cases cs with
      | nil => simp [collapse, words, hc]
      | cons d ds =>
        have htail := hrest (by simp)
        cases hd : isBlank d with
        | false =>
          obtain ⟨w, ws, hwords, hglued⟩ := words_glued hc hd ds
          rw [trimLeft, List.dropWhile_cons_of_neg (by simp [hd]), collapse, hwords, intercalate_cons] at htail
          rw [collapse, hglued, intercalate_cons, List.cons_append, htail]
        | true =>
          obtain rfl := hblank d (by simp) hd
          -- the text does not end here, and no second space follows
          obtain ⟨e, es, rfl⟩ := List.exists_cons_of_ne_nil (l := ds) fun h => hlast (by simp [h])
          have he : isBlank e = false := by
            have hnext := (List.isChain_cons_cons.mp hapart.tail).1
            exact Bool.eq_false_iff.mpr fun he => hnext ⟨rfl, hblank e (by simp) he⟩
          rw [collapse, words_blank hd, trimLeft, List.dropWhile_cons_of_pos hd,
            List.dropWhile_cons_of_neg (by simp [he])] at htail
          rw [collapse, words_parted hc hd]
          cases hwords : words (e :: es) with
          | nil =>
            rw [hwords] at htail
            cases htail
          | cons w ws =>
            rw [hwords] at htail
            rw [List.intercalate_cons_cons, htail]
            rfl

theorem Tidy.squash (h : Tidy s) : Text.squash s = s := by
  have hhead : trimLeft s = s := by
    obtain ⟨c, cs, rfl⟩ := List.exists_cons_of_ne_nil h.ne_nil
    refine List.dropWhile_cons_of_neg fun hc => h.head_ne ?_
    rw [h.spaced c (by simp) hc]
    rfl
  have hflat : collapse s = s := (collapse_eq_trimLeft h.spaced h.last_ne h.apart).trans hhead
  have hkept : abridge 120 s = s := if_pos (by exact_mod_cast h.short)
  rw [Text.squash, hflat, hkept]
  simp [h.ne_nil]

theorem Unbroken.tidy (h : Unbroken s) (hne : s ≠ []) (hshort : s.length ≤ 120) : Tidy s := by
  have hspace : ' ' ∉ s := fun hmem => absurd (h ' ' hmem) (by decide)
  refine ⟨hne, fun c hc hblank => ?_, fun hhead => ?_, fun hlast => ?_, ?_, hshort⟩
  · simp [h c hc] at hblank
  · exact hspace (List.mem_of_mem_head? hhead)
  · exact hspace (List.mem_of_mem_getLast? hlast)
  · refine (List.pairwise_of_forall_mem_list fun c hc d _ => ?_).isChain
    rintro ⟨rfl, -⟩
    exact hspace hc

/-! ## Trimming -/

theorem isBlank_of_visible (h : 0x21 ≤ c.toNat ∧ c.toNat ≤ 0x7e) : isBlank c = false := by
  have hranges : ∀ r ∈ blankClass.ranges, r.2 < 0x21 ∨ 0x7e < r.1 := by decide
  rw [isBlank, CharClass.has, List.any_eq_false]
  intro r hr
  have hoff := hranges r hr
  simp only [Bool.and_eq_true, decide_eq_true_eq]
  omega

theorem isBlank_of_isDigit (h : isDigit c = true) : isBlank c = false := by
  have hranges : ∀ z ∈ digitZeros, ∀ r ∈ blankClass.ranges, r.2 < z ∨ z + 9 < r.1 := by decide
  obtain ⟨z, hz⟩ : ∃ z, digitZeros.find? (fun z => z ≤ c.toNat && c.toNat < z + 10) = some z := by
    rw [isDigit, digitValue?, Option.isSome_map] at h
    exact Option.isSome_iff_exists.mp h
  have hc := List.find?_some hz
  simp only [Bool.and_eq_true, decide_eq_true_eq] at hc
  rw [isBlank, CharClass.has, List.any_eq_false]
  intro r hr
  have hoff := hranges z (List.mem_of_find?_eq_some hz) r hr
  simp only [Bool.and_eq_true, decide_eq_true_eq]
  omega

theorem Unbroken.dropWhile (h : Unbroken s) : s.dropWhile isBlank = s := by
  cases s with
  | nil => rfl
  | cons c cs => exact List.dropWhile_cons_of_neg (by simp [h c (by simp)])

theorem Unbroken.trimChars (h : Unbroken s) : trimChars s = s := by
  have hback : Unbroken s.reverse := fun c hc => h c (List.mem_reverse.mp hc)
  rw [Text.trimChars, trimLeft, h.dropWhile, trimRight, hback.dropWhile, List.reverse_reverse]

theorem trimChars_getLast? (s : List Char) : ∀ c ∈ (trimChars s).getLast?, isBlank c = false := by
  intro c hc
  rw [Text.trimChars, trimRight, List.getLast?_reverse] at hc
  have hfirst := List.head?_dropWhile_not isBlank (trimLeft s).reverse
  rw [hc] at hfirst
  simpa using hfirst

/-- A text that begins and ends with something other than a blank. -/
structure Trimmed (s : List Char) : Prop where
  ne_nil : s ≠ []
  head : ∀ c ∈ s.head?, isBlank c = false
  last : ∀ c ∈ s.getLast?, isBlank c = false

theorem trimmed_iff (s : List Char) : Trimmed s ↔
    s ≠ [] ∧ (s.head?.all fun c => !isBlank c) = true ∧ (s.getLast?.all fun c => !isBlank c) = true := by
  simp only [Option.all_eq_true, Bool.not_eq_true']
  exact ⟨fun ⟨hne, hhead, hlast⟩ => ⟨hne, hhead, hlast⟩, fun ⟨hne, hhead, hlast⟩ => ⟨hne, hhead, hlast⟩⟩

instance (s : List Char) : Decidable (Trimmed s) :=
  decidable_of_iff _ (trimmed_iff s).symm

theorem Unbroken.trimmed (h : Unbroken s) (hne : s ≠ []) : Trimmed s :=
  ⟨hne, fun c hc => h c (List.mem_of_mem_head? hc), fun c hc => h c (List.mem_of_mem_getLast? hc)⟩

theorem Trimmed.trimChars_eq (h : Trimmed s) : trimChars s = s := by
  have hleft : trimLeft s = s := by
    obtain ⟨c, cs, rfl⟩ := List.exists_cons_of_ne_nil h.ne_nil
    exact List.dropWhile_cons_of_neg (by simp [h.head c rfl])
  have hright : trimRight s = s :=
    List.rdropWhile_eq_self_iff.mpr fun hne => by
      simp [h.last (s.getLast hne) (List.getLast?_eq_some_getLast hne)]
  rw [trimChars, hleft, hright]

theorem trimmed_trimChars (h : trimChars s ≠ []) : Trimmed (trimChars s) where
  ne_nil := h
  head c hc := by
    obtain ⟨rest, hrest⟩ : trimChars s <+: trimLeft s := List.rdropWhile_prefix isBlank _
    have hfirst := List.head?_dropWhile_not isBlank s
    have hhead : (s.dropWhile isBlank).head? = some c := by
      change (trimLeft s).head? = some c
      rw [← hrest, List.head?_append_of_ne_nil _ h]
      exact hc
    rw [hhead] at hfirst
    simpa using hfirst
  last := trimChars_getLast? s

theorem Trimmed.trim_eq {s : String} (h : Trimmed s.toList) : trim s = s := by
  rw [trim, h.trimChars_eq, String.ofList_toList]

theorem trimmed_trim {s : String} (h : trim s ≠ "") : Trimmed (trim s).toList := by
  rw [trim, String.toList_ofList]
  exact trimmed_trimChars fun hnil => h (by rw [trim, hnil])

theorem trimChars_sublist (s : List Char) : (trimChars s).Sublist s :=
  (List.rdropWhile_prefix isBlank _).sublist.trans (List.dropWhile_sublist _)

/-! ### Blanks around a text -/

variable {gap : List Char}

theorem trimLeft_blanks (h : ∀ c ∈ gap, isBlank c = true) : trimLeft gap = [] :=
  List.dropWhile_eq_nil_iff.mpr h

theorem trimRight_append_blanks (h : ∀ c ∈ gap, isBlank c = true) (s : List Char) :
    trimRight (s ++ gap) = trimRight s := by
  have hgap : ∀ c ∈ gap.reverse, isBlank c = true := fun c hc => h c (List.mem_reverse.mp hc)
  rw [trimRight, List.reverse_append, List.dropWhile_append_of_pos hgap, trimRight]

theorem trimChars_blanks_append (h : ∀ c ∈ gap, isBlank c = true) (s : List Char) :
    trimChars (gap ++ s) = trimChars s := by
  rw [trimChars, trimLeft, List.dropWhile_append_of_pos h, trimChars, trimLeft]

theorem trimChars_append_blanks (h : ∀ c ∈ gap, isBlank c = true) (s : List Char) :
    trimChars (s ++ gap) = trimChars s := by
  by_cases hs : trimLeft s = []
  · have hblank : ∀ c ∈ s, isBlank c = true := List.dropWhile_eq_nil_iff.mp hs
    rw [trimChars_blanks_append hblank, trimChars, trimLeft_blanks h, trimChars, hs]
  · have hleft : trimLeft (s ++ gap) = trimLeft s ++ gap := by
      rw [trimLeft, List.dropWhile_append, if_neg (by simpa [trimLeft] using hs), trimLeft]
    rw [trimChars, hleft, trimRight_append_blanks h, trimChars]

theorem trimChars_trimLeft (s : List Char) : trimChars (trimLeft s) = trimChars s := by
  rw [trimChars, trimLeft, trimLeft, List.dropWhile_idempotent, trimChars, trimLeft]

theorem trimChars_trimRight (s : List Char) : trimChars (trimRight s) = trimChars s := by
  have hsplit : trimRight s ++ s.rtakeWhile isBlank = s := List.rdropWhile_append_rtakeWhile
  have hgap : ∀ c ∈ s.rtakeWhile isBlank, isBlank c = true := fun c hc => List.mem_rtakeWhile_imp hc
  rw [← trimChars_append_blanks hgap, hsplit]

theorem dropWhile_append_cons (h : isBlank c = false) (s t : List Char) :
    (s ++ c :: t).dropWhile isBlank = s.dropWhile isBlank ++ c :: t := by
  rw [List.dropWhile_append]
  split
  · rename_i hnil
    rw [List.isEmpty_iff.mp hnil, List.dropWhile_cons_of_neg (by simp [h]), List.nil_append]
  · rfl

theorem trimChars_append_cons (h : isBlank c = false) (s t : List Char) :
    trimChars (s ++ c :: t) = trimLeft s ++ c :: trimRight t := by
  have hleft : trimLeft (s ++ c :: t) = trimLeft s ++ c :: t := dropWhile_append_cons h s t
  have hback : (trimLeft s ++ c :: t).reverse = t.reverse ++ c :: (trimLeft s).reverse := by simp
  rw [trimChars, hleft, trimRight, hback, dropWhile_append_cons h, trimRight]
  simp

end RunSteward.Text
