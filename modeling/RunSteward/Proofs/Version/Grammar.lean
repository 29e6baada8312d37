import RunSteward.Proofs.Text.Blank
import RunSteward.Proofs.Version.Numeral

/-!
# The grammar of versions

A version is written with two or three numerals, perhaps with the letter v in front and with the names of a prerelease
and a build behind (`Spelling`). What is read as a version is exactly what is written in this way, and no text is
written in
two ways (`Spelling.text_injective`). The own text of a version is one of its spellings (`Regular.exists_spelling`), so
it is a canonical form of all the texts that are read as the version (`read_exact`). All this ends where a numeral has
more
digits than can be read or written (`Spelling.IsShort`): such a text breaks the reading off, spelling though it is.
-/

namespace RunSteward.Version

open Text

variable {s rest rest' : List Char} {mark : Char} {q : Char → Bool} {v : Version}

/-- A non-empty row of the characters of names. -/
structure Name where
  chars : List Char
  ne_nil : chars ≠ []
  valid : ∀ c ∈ chars, isNameChar c = true

/-- A part with a mark in front, which may be missing. -/
def marked (mark : Char) (part : Option (List Char)) : List Char :=
  part.elim [] (mark :: ·)

/-- The parts that a version is written with. -/
structure Spelling where
  lettered : Bool := false
  major : Numeral
  minor : Numeral
  patch : Option Numeral := none
  prerelease : Option Name := none
  build : Option Name := none

namespace Spelling

/-- The prerelease and the build. -/
def suffix (p : Spelling) : List Char :=
  marked '-' (p.prerelease.map Name.chars) ++ marked '+' (p.build.map Name.chars)

def text (p : Spelling) : List Char :=
  (if p.lettered then ['v'] else []) ++ (p.major.chars ++ '.' :: (p.minor.chars ++
    (marked '.' (p.patch.map Numeral.chars) ++ p.suffix)))

/-- The version that is written. A missing patch number is zero, and the build does not count. -/
def version (p : Spelling) : Version where
  major := p.major.value
  minor := p.minor.value
  patch := (p.patch.elim 0 Numeral.value : Nat)
  prerelease := String.ofList (p.prerelease.elim [] Name.chars)

end Spelling

namespace Spelling

def numerals (p : Spelling) : List Numeral :=
  p.major :: p.minor :: p.patch.toList

/-- No numeral has too many digits. -/
def IsShort (p : Spelling) : Prop :=
  ∀ n ∈ p.numerals, n.chars.length ≤ digitLimit

instance (p : Spelling) : Decidable p.IsShort :=
  inferInstanceAs (Decidable (∀ n ∈ p.numerals, n.chars.length ≤ digitLimit))

end Spelling

/-- A version without negative numbers whose prerelease consists of the characters of names. -/
structure Regular (v : Version) : Prop where
  major_nonneg : 0 ≤ v.major
  minor_nonneg : 0 ≤ v.minor
  patch_nonneg : 0 ≤ v.patch
  prerelease_valid : ∀ c ∈ v.prerelease.toList, isNameChar c = true

/-! ## Parts that may be missing -/

theorem endsAt_marked (hmark : q mark = false) (part : Option (List Char)) (hrest : EndsAt q rest) :
    EndsAt q (marked mark part ++ rest) := by
  cases part with
  | none => exact hrest
  | some part => exact EndsAt.cons hmark _

theorem Spelling.endsAt_build (hplus : q '+' = false) (p : Spelling) :
    EndsAt q (marked '+' (p.build.map Name.chars)) := by
  have hbuild := endsAt_marked hplus (p.build.map Name.chars) (endsAt_nil q)
  rwa [List.append_nil] at hbuild

theorem Spelling.endsAt_suffix (hhyphen : q '-' = false) (hplus : q '+' = false) (p : Spelling) :
    EndsAt q p.suffix :=
  endsAt_marked hhyphen _ (p.endsAt_build hplus)

theorem takeName?_marked (mark : Char) (part : Option Name) (hrest : EndsAt isNameChar rest)
    (hmark : EndsAt (· == mark) rest) :
    takeName? mark (marked mark (part.map Name.chars) ++ rest) = some (part.elim [] Name.chars, rest) := by
  cases part with
  | none =>
    cases rest with
    | nil => rfl
    | cons c cs =>
      have hc : c ≠ mark := by simpa using hmark c rfl
      simp [marked, takeName?, hc]
  | some name =>
    have hname := takeWhile_append_endsAt name.valid hrest
    have hbehind := dropWhile_append_endsAt name.valid hrest
    simp [marked, takeName?, hname, hbehind, name.ne_nil]

theorem exists_name {name : List Char} (h : takeName? mark s = some (name, rest)) :
    ∃ part : Option Name, s = marked mark (part.map Name.chars) ++ rest ∧ part.elim [] Name.chars = name := by
  cases s with
  | nil =>
    obtain ⟨rfl, rfl⟩ : [] = name ∧ [] = rest := by simpa [takeName?] using h
    exact ⟨none, rfl, rfl⟩
  | cons c cs =>
    rw [takeName?] at h
    split at h
    · next hmark =>
      dsimp only at h
      split at h
      · cases h
      · next hne =>
        obtain ⟨rfl, rfl⟩ : cs.takeWhile isNameChar = name ∧ cs.dropWhile isNameChar = rest := by simpa using h
        refine ⟨some ⟨_, by simpa using hne, fun c hc => List.mem_takeWhile_imp hc⟩, ?_, rfl⟩
        simp [marked, hmark]
    · obtain ⟨rfl, rfl⟩ : [] = name ∧ c :: cs = rest := by simpa using h
      exact ⟨none, rfl, rfl⟩

/-- The third numeral of a version, or zero where there is none. -/
def takePatch? : List Char → Option (Nat × List Char)
  | '.' :: cs => takeNumeral? cs
  | cs => some (0, cs)

theorem takePatch?_marked (part : Option Numeral) (hrest : EndsAt isDigit rest) (hpoint : EndsAt (· == '.') rest) :
    takePatch? (marked '.' (part.map Numeral.chars) ++ rest) = some (part.elim 0 Numeral.value, rest) := by
  cases part with
  | none =>
    refine takePatch?.eq_2 rest fun cs heq => ?_
    have hne := hpoint '.' (by rw [heq]; rfl)
    cases hne
  | some n => exact n.denotes.take hrest

theorem exists_patch {n : Nat} (h : takePatch? s = some (n, rest)) :
    ∃ part : Option Numeral, s = marked '.' (part.map Numeral.chars) ++ rest ∧ part.elim 0 Numeral.value = n := by
  unfold takePatch? at h
  split at h
  · obtain ⟨p, rfl, rfl⟩ := exists_numeral h
    exact ⟨some p, rfl, rfl⟩
  · obtain ⟨rfl, rfl⟩ : 0 = n ∧ _ = rest := by simpa using h
    exact ⟨none, rfl, rfl⟩

theorem exists_pointed {r : Nat × List Char} (h : takePointed? s = some r) :
    ∃ cs, s = '.' :: cs ∧ takeNumeral? cs = some r := by
  unfold takePointed? at h
  split at h
  · exact ⟨_, rfl, h⟩
  · cases h

/-- A text without a letter v in front. -/
def dropLetter : List Char → List Char
  | 'v' :: cs => cs
  | cs => cs

theorem exists_letter (s : List Char) : ∃ lettered : Bool, s = (if lettered then ['v'] else []) ++ dropLetter s := by
  unfold dropLetter
  split
  · exact ⟨true, rfl⟩
  · exact ⟨false, rfl⟩

theorem digitChar_ne_letter (i : Fin 10) : Nat.digitChar i ≠ 'v' := by
  revert i
  decide

theorem Spelling.dropLetter_text (p : Spelling) : dropLetter p.text = p.major.chars ++ '.' :: (p.minor.chars ++
    (marked '.' (p.patch.map Numeral.chars) ++ p.suffix)) := by
  rw [text]
  cases p.lettered with
  | true => rfl
  | false =>
    obtain ⟨i, ds, hrow⟩ := p.major.denotes.head
    refine dropLetter.eq_2 _ fun cs heq => ?_
    rw [hrow] at heq
    exact digitChar_ne_letter i (List.cons.inj heq).1

/-! ## Reading a version -/

theorem ofChars?_eq (s : List Char) : ofChars? s =
    (takeNumeral? (dropLetter s)).bind fun major => (takePointed? major.2).bind fun minor =>
      (takePatch? minor.2).bind fun patch => (takeName? '-' patch.2).bind fun prerelease =>
        (takeName? '+' prerelease.2).bind fun build =>
          if build.2.isEmpty then some ⟨major.1, minor.1, patch.1, String.ofList prerelease.1⟩ else none := by
  refine congrArg (Option.bind (takeNumeral? (dropLetter s))) (funext fun major => ?_)
  refine congrArg (Option.bind (takePointed? major.2)) (funext fun ⟨minor, s⟩ => ?_)
  dsimp only
  split
  · rfl
  · next hpoint =>
    rw [takePatch?.eq_2 s hpoint]
    rfl

namespace Spelling

variable {p p' : Spelling}

theorem endsAt_digits (p : Spelling) : EndsAt isDigit (marked '.' (p.patch.map Numeral.chars) ++ p.suffix) :=
  endsAt_marked (by decide) _ (p.endsAt_suffix (by decide) (by decide))

theorem ofChars?_text (p : Spelling) : ofChars? p.text = some p.version := by
  have hmajor := p.major.denotes.take (endsAt_point (p.minor.chars ++
    (marked '.' (p.patch.map Numeral.chars) ++ p.suffix)))
  have hminor := p.minor.denotes.take p.endsAt_digits
  have hpatch := takePatch?_marked p.patch (p.endsAt_suffix (by decide) (by decide))
    (p.endsAt_suffix (by decide) (by decide))
  have hprerelease := takeName?_marked '-' p.prerelease (p.endsAt_build (by decide))
    (p.endsAt_build (by decide))
  have hbuild := takeName?_marked '+' p.build (endsAt_nil _) (endsAt_nil _)
  rw [List.append_nil] at hbuild
  rw [ofChars?_eq, dropLetter_text, hmajor, Option.bind_some, takePointed?, hminor, Option.bind_some, hpatch,
    Option.bind_some, suffix, hprerelease, Option.bind_some, hbuild, Option.bind_some]
  rfl

theorem exists_of_ofChars? (h : ofChars? s = some v) : ∃ p : Spelling, s = p.text ∧ p.version = v := by
  rw [ofChars?_eq] at h
  obtain ⟨⟨a, s₁⟩, hmajor, h⟩ := Option.bind_eq_some_iff.mp h
  obtain ⟨⟨b, s₂⟩, hminor, h⟩ := Option.bind_eq_some_iff.mp h
  obtain ⟨⟨c, s₃⟩, hpatch, h⟩ := Option.bind_eq_some_iff.mp h
  obtain ⟨⟨d, s₄⟩, hprerelease, h⟩ := Option.bind_eq_some_iff.mp h
  obtain ⟨⟨e, s₅⟩, hbuild, h⟩ := Option.bind_eq_some_iff.mp h
  dsimp only at hmajor hminor hpatch hprerelease hbuild h
  obtain ⟨hend, rfl⟩ : s₅ = [] ∧ _ = v := by simpa using h
  obtain ⟨major, hs, rfl⟩ := exists_numeral hmajor
  obtain ⟨s₁, rfl, hminor⟩ := exists_pointed hminor
  obtain ⟨minor, rfl, rfl⟩ := exists_numeral hminor
  obtain ⟨patch, rfl, rfl⟩ := exists_patch hpatch
  obtain ⟨prerelease, rfl, rfl⟩ := exists_name hprerelease
  obtain ⟨build, rfl, -⟩ := exists_name hbuild
  obtain ⟨lettered, hletter⟩ := exists_letter s
  refine ⟨⟨lettered, major, minor, patch, prerelease, build⟩, hletter.trans ?_, rfl⟩
  rw [text, hs, hend, suffix, List.append_nil]

/-! ## One spelling for a text -/

theorem digits_of_patch {row : List Char} (h : row ∈ p.patch.map Numeral.chars) : ∀ c ∈ row, isDigit c = true := by
  obtain ⟨n, -, rfl⟩ := Option.map_eq_some_iff.mp h
  exact n.denotes.digits

theorem valid_of_name {name : Option Name} {row : List Char} (h : row ∈ name.map Name.chars) :
    ∀ c ∈ row, isNameChar c = true := by
  obtain ⟨n, -, rfl⟩ := Option.map_eq_some_iff.mp h
  exact n.valid

end Spelling

theorem Name.chars_injective {m n : Name} (h : m.chars = n.chars) : m = n := by
  obtain ⟨row, _, _⟩ := m
  obtain ⟨row', _, _⟩ := n
  obtain rfl : row = row' := h
  rfl

theorem marked_append_inj {x y : Option (List Char)} (hx : ∀ row ∈ x, ∀ c ∈ row, q c = true)
    (hy : ∀ row ∈ y, ∀ c ∈ row, q c = true) (hrest : EndsAt q rest) (hrest' : EndsAt q rest')
    (hmark : EndsAt (· == mark) rest) (hmark' : EndsAt (· == mark) rest')
    (h : marked mark x ++ rest = marked mark y ++ rest') : x = y ∧ rest = rest' := by
  have hne : ∀ {s row : List Char}, EndsAt (· == mark) s → s ≠ mark :: row := by
    rintro s row hs rfl
    simpa using hs mark rfl
  cases x with
  | none =>
    cases y with
    | none => exact ⟨rfl, h⟩
    | some row => exact absurd h (hne hmark)
  | some row =>
    cases y with
    | none => exact absurd h.symm (hne hmark')
    | some row' =>
      obtain ⟨rfl, hrest⟩ := append_inj_of_endsAt (hx row rfl) (hy row' rfl) hrest hrest' (List.cons.inj h).2
      exact ⟨rfl, hrest⟩

theorem bounds_of_isNameChar {c : Char} (h : isNameChar c = true) :
    (0x30 ≤ c.toNat ∧ c.toNat ≤ 0x7a) ∨ c = '.' ∨ c = '-' := by
  have hkind : c.isAlphanum = true ∨ c = '.' ∨ c = '-' := by simpa [isNameChar, or_assoc] using h
  exact hkind.imp_left bounds_of_isAlphanum

theorem isBlank_of_isNameChar {c : Char} (h : isNameChar c = true) : isBlank c = false := by
  refine isBlank_of_visible ?_
  rcases bounds_of_isNameChar h with h | rfl | rfl
  · omega
  · decide
  · decide

theorem Numeral.unbroken (n : Numeral) : Unbroken n.chars :=
  fun c hc => isBlank_of_isDigit (n.denotes.digits c hc)

theorem unbroken_marked {part : Option (List Char)} (hmark : isBlank mark = false)
    (hpart : ∀ row ∈ part, Unbroken row) : Unbroken (marked mark part) := by
  cases part with
  | none =>
    intro c hc
    cases hc
  | some row =>
    intro c hc
    rcases List.mem_cons.mp hc with rfl | hc
    · exact hmark
    · exact hpart row rfl c hc

namespace Spelling

variable {p p' : Spelling}

theorem text_injective (h : p.text = p'.text) : p = p' := by
  have hrest : dropLetter p.text = dropLetter p'.text := by rw [h]
  have hletter := h
  rw [text, text, ← dropLetter_text, ← dropLetter_text, hrest, List.append_cancel_right_eq] at hletter
  rw [dropLetter_text, dropLetter_text] at hrest
  -- the parts are told apart one after another, each by the marks behind it
  obtain ⟨hmajor, hrest⟩ := append_inj_of_endsAt p.major.denotes.digits p'.major.denotes.digits
    (endsAt_point _) (endsAt_point _) hrest
  obtain ⟨hminor, hrest⟩ := append_inj_of_endsAt p.minor.denotes.digits p'.minor.denotes.digits p.endsAt_digits
    p'.endsAt_digits (List.cons.inj hrest).2
  obtain ⟨hpatch, hrest⟩ := marked_append_inj (q := isDigit) (fun _ => digits_of_patch) (fun _ => digits_of_patch)
    (p.endsAt_suffix (by decide) (by decide)) (p'.endsAt_suffix (by decide) (by decide))
    (p.endsAt_suffix (by decide) (by decide)) (p'.endsAt_suffix (by decide) (by decide)) hrest
  obtain ⟨hprerelease, hrest⟩ := marked_append_inj (q := isNameChar) (fun _ => valid_of_name)
    (fun _ => valid_of_name) (p.endsAt_build (by decide)) (p'.endsAt_build (by decide))
    (p.endsAt_build (by decide)) (p'.endsAt_build (by decide)) hrest
  rw [← List.append_nil (marked _ _), ← List.append_nil (marked _ (p'.build.map _))] at hrest
  obtain ⟨hbuild, -⟩ := marked_append_inj (q := isNameChar) (fun _ => valid_of_name) (fun _ => valid_of_name)
    (endsAt_nil _) (endsAt_nil _) (endsAt_nil _) (endsAt_nil _) hrest
  obtain ⟨lettered, major, minor, patch, prerelease, build⟩ := p
  obtain ⟨lettered', major', minor', patch', prerelease', build'⟩ := p'
  obtain rfl : major = major' := Numeral.chars_injective hmajor
  obtain rfl : minor = minor' := Numeral.chars_injective hminor
  obtain rfl : patch = patch' := Option.map_injective (fun _ _ => Numeral.chars_injective) hpatch
  obtain rfl : prerelease = prerelease' := Option.map_injective (fun _ _ => Name.chars_injective) hprerelease
  obtain rfl : build = build' := Option.map_injective (fun _ _ => Name.chars_injective) hbuild
  obtain rfl : lettered = lettered' := by
    revert hletter
    cases lettered <;> cases lettered' <;> simp
  rfl

/-! ## The text of a version -/

theorem regular (p : Spelling) : p.version.Regular where
  major_nonneg := Int.natCast_nonneg _
  minor_nonneg := Int.natCast_nonneg _
  patch_nonneg := Int.natCast_nonneg _
  prerelease_valid := by
    rw [version, String.toList_ofList]
    cases p.prerelease with
    | none => simp
    | some name => exact name.valid

theorem unbroken (p : Spelling) : Unbroken p.text := by
  have hnames : ∀ name : Option Name, ∀ row ∈ name.map Name.chars, Unbroken row := fun name row hrow c hc =>
    isBlank_of_isNameChar (valid_of_name hrow c hc)
  intro c hc
  simp only [text, suffix, List.mem_append, List.mem_cons] at hc
  rcases hc with hc | hc | rfl | hc | hc | hc | hc
  · have hletter : c = 'v' := by
      cases hlettered : p.lettered <;> simp [hlettered] at hc
      exact hc
    rw [hletter]
    decide
  · exact p.major.unbroken c hc
  · decide
  · exact p.minor.unbroken c hc
  · exact unbroken_marked (by decide) (fun row hrow d hd => isBlank_of_isDigit (digits_of_patch hrow d hd)) c hc
  · exact unbroken_marked (by decide) (hnames p.prerelease) c hc
  · exact unbroken_marked (by decide) (hnames p.build) c hc

end Spelling

theorem toList_repr (n : Nat) : (n : Int).repr.toList = Nat.toDigits 10 n := by
  show (Nat.repr n).toList = _
  simp [Nat.repr]

theorem toList_wording (a b c : Nat) (prerelease : String) : (wording ⟨a, b, c, prerelease⟩).toList =
    Nat.toDigits 10 a ++ '.' :: (Nat.toDigits 10 b ++ '.' :: (Nat.toDigits 10 c ++
      if prerelease = "" then [] else '-' :: prerelease.toList)) := by
  by_cases hnone : prerelease = ""
  · simp [wording, isRelease, hnone, String.toList_append, toList_repr]
  · simp [wording, isRelease, hnone, String.toList_append, toList_repr]

theorem Regular.exists_spelling (h : v.Regular) : ∃ p : Spelling, v.wording.toList = p.text ∧ p.version = v := by
  obtain ⟨major, minor, patch, prerelease⟩ := v
  obtain ⟨hmajor, hminor, hpatch, hvalid⟩ := h
  dsimp only at hmajor hminor hpatch hvalid
  obtain ⟨a, rfl⟩ := Int.eq_ofNat_of_zero_le hmajor
  obtain ⟨b, rfl⟩ := Int.eq_ofNat_of_zero_le hminor
  obtain ⟨c, rfl⟩ := Int.eq_ofNat_of_zero_le hpatch
  rw [toList_wording]
  by_cases hnone : prerelease = ""
  · refine ⟨⟨false, .decimal a, .decimal b, some (.decimal c), none, none⟩, ?_, ?_⟩
    · simp [Spelling.text, Spelling.suffix, marked, Numeral.decimal, hnone]
    · simp [Spelling.version, Numeral.decimal, hnone]
  · refine ⟨⟨false, .decimal a, .decimal b, some (.decimal c), some ⟨prerelease.toList, by simpa using hnone, hvalid⟩,
      none⟩, ?_, ?_⟩
    · simp [Spelling.text, Spelling.suffix, marked, Numeral.decimal, hnone]
    · simp [Spelling.version, Numeral.decimal]

/-! ## Limits -/

theorem isWritable_value (n : Numeral) : Text.isWritable n.value = true ↔ n.chars.length ≤ digitLimit := by
  rw [n.denotes.length_le_iff (by decide), Text.isWritable, Int.natAbs_natCast, Nat.pow_eq, decide_eq_true_iff]

theorem Spelling.isWritable_version (p : Spelling) : p.version.isWritable = true ↔ p.IsShort := by
  have hpatch : Text.isWritable p.version.patch = true ↔ ∀ n ∈ p.patch.toList, n.chars.length ≤ digitLimit := by
    rw [version]
    cases p.patch with
    | none => simp [Text.isWritable]
    | some n => simpa using isWritable_value n
  rw [isWritable, Bool.and_eq_true, Bool.and_eq_true, hpatch, and_assoc]
  simp only [IsShort, numerals, List.forall_mem_cons]
  exact and_congr (isWritable_value p.major) (and_congr_left' (isWritable_value p.minor))

/-! ## Blanks around a version -/

theorem spelled?_eq_some_iff {text : String} :
    spelled? text = some v ↔ ∃ p : Spelling, trimChars text.toList = p.text ∧ p.version = v := by
  rw [spelled?]
  constructor
  · exact Spelling.exists_of_ofChars?
  · rintro ⟨p, htext, rfl⟩
    rw [htext, p.ofChars?_text]

theorem read_of_spelling {text : String} {p : Spelling} (h : trimChars text.toList = p.text) :
    read text = if p.IsShort then .ok (some p.version) else .error .numeralTooLong := by
  rw [read, spelled?_eq_some_iff.mpr ⟨p, h, rfl⟩]
  by_cases hshort : p.IsShort
  · simp only [if_pos hshort, if_pos (p.isWritable_version.mpr hshort)]
  · simp only [if_neg hshort, if_neg fun hwritable => hshort (p.isWritable_version.mp hwritable)]

theorem read_of_no_spelling {text : String} (h : ¬∃ p : Spelling, trimChars text.toList = p.text) :
    read text = .ok none := by
  have hnone : spelled? text = none := by
    refine Option.eq_none_iff_forall_ne_some.mpr fun v hv => h ?_
    obtain ⟨p, htext, -⟩ := spelled?_eq_some_iff.mp hv
    exact ⟨p, htext⟩
  rw [read, hnone]

theorem read_eq_some_iff {text : String} :
    read text = .ok (some v) ↔ ∃ p : Spelling, trimChars text.toList = p.text ∧ p.IsShort ∧ p.version = v := by
  constructor
  · intro h
    by_cases hspelled : ∃ p : Spelling, trimChars text.toList = p.text
    · obtain ⟨p, htext⟩ := hspelled
      rw [read_of_spelling htext] at h
      split at h
      · next hshort => exact ⟨p, htext, hshort, Option.some.inj (Except.ok.inj h)⟩
      · cases h
    · rw [read_of_no_spelling hspelled] at h
      cases h
  · rintro ⟨p, htext, hshort, rfl⟩
    rw [read_of_spelling htext, if_pos hshort]

theorem read_eq_none_iff {text : String} :
    read text = .ok none ↔ ¬∃ p : Spelling, trimChars text.toList = p.text := by
  refine ⟨fun h => ?_, read_of_no_spelling⟩
  rintro ⟨p, htext⟩
  rw [read_of_spelling htext] at h
  split at h <;> cases h

theorem read_eq_error_iff {text : String} {f : Fault} :
    read text = .error f ↔ f = .numeralTooLong ∧ ∃ p : Spelling, trimChars text.toList = p.text ∧ ¬p.IsShort := by
  constructor
  · intro h
    by_cases hspelled : ∃ p : Spelling, trimChars text.toList = p.text
    · obtain ⟨p, htext⟩ := hspelled
      rw [read_of_spelling htext] at h
      split at h
      · cases h
      · next hlong => exact ⟨(Except.error.inj h).symm, p, htext, hlong⟩
    · rw [read_of_no_spelling hspelled] at h
      cases h
  · rintro ⟨rfl, p, htext, hlong⟩
    rw [read_of_spelling htext, if_neg hlong]

theorem Regular.read_wording (h : v.Regular) :
    read v.wording = if v.isWritable then .ok (some v) else .error .numeralTooLong := by
  obtain ⟨p, htext, rfl⟩ := h.exists_spelling
  rw [read_of_spelling (by rw [htext, p.unbroken.trimChars])]
  exact if_congr p.isWritable_version.symm rfl rfl

theorem Regular.read_text (h : v.Regular) {t : String} (ht : v.text = .ok t) : read t = .ok (some v) := by
  rw [text] at ht
  split at ht
  · next hwritable =>
    obtain rfl := Except.ok.inj ht
    rw [h.read_wording, if_pos hwritable]
  · cases ht

theorem text_of_read {s : String} (h : read s = .ok (some v)) : v.text = .ok v.wording := by
  obtain ⟨p, -, hshort, rfl⟩ := read_eq_some_iff.mp h
  rw [text, if_pos (p.isWritable_version.mpr hshort)]

theorem regular_of_read {s : String} (h : read s = .ok (some v)) : v.Regular := by
  obtain ⟨p, -, -, rfl⟩ := read_eq_some_iff.mp h
  exact p.regular

/-- **Versions are read by their grammar.** A text is read as a version exactly if it is a spelling of the version
without
long numerals, blanks around it aside; it is one in one way only. Nothing is read exactly from the texts that are no
spellings, and the reading breaks off exactly at the spellings with a long numeral. Every version without negative
numbers whose prerelease consists of the characters of names is read from its own text, unless a number of it is too
long
to be written; all versions that are read from a text are of this kind and can be written, and two texts are read as the
same version exactly if they lead to the same own text. -/
theorem read_exact (text : String) (v : Version) :
    (read text = .ok (some v) ↔ ∃ p : Spelling, trimChars text.toList = p.text ∧ p.IsShort ∧ p.version = v) ∧
    (read text = .ok none ↔ ¬∃ p : Spelling, trimChars text.toList = p.text) ∧
    (∀ f : Fault, read text = .error f ↔
      f = .numeralTooLong ∧ ∃ p : Spelling, trimChars text.toList = p.text ∧ ¬p.IsShort) ∧
    (∀ p p' : Spelling, p.text = p'.text → p = p') ∧
    (v.Regular → (∀ t, v.text = .ok t → read t = .ok (some v)) ∧
      ∀ f, v.text = .error f ↔ f = .numeralTooLong ∧ v.isWritable = false) ∧
    (read text = .ok (some v) → v.Regular ∧ ∃ t, v.text = .ok t ∧ read t = .ok (some v)) ∧
    ∀ (text' : String) (v' : Version), read text = .ok (some v) → read text' = .ok (some v') →
      (v = v' ↔ v.text = v'.text) := by
  refine ⟨read_eq_some_iff, read_eq_none_iff, fun _ => read_eq_error_iff, fun _ _ => Spelling.text_injective,
    fun hv => ⟨fun t => hv.read_text, fun f => ?_⟩, fun h => ?_, ?_⟩
  · rw [Version.text]
    cases v.isWritable <;> simp [eq_comm]
  · exact ⟨regular_of_read h, _, text_of_read h, (regular_of_read h).read_text (text_of_read h)⟩
  · intro text' v' h h'
    refine ⟨fun hsame => by rw [hsame], fun htext => ?_⟩
    have hread := (regular_of_read h).read_text (text_of_read h)
    rw [(regular_of_read h').read_text (htext ▸ text_of_read h)] at hread
    exact (Option.some.inj (Except.ok.inj hread)).symm

/-- A version with a letter, a digit of another script, no patch number, and hyphens and points in its names. -/
def foreignSpelling : Spelling where
  lettered := true
  major := ⟨['1', '\u0663'], 13, .more (d := 3) (.leading 0) (by decide) (by decide)⟩
  minor := ⟨['0'], 0, .zero⟩
  prerelease := some ⟨"RC-.1".toList, by decide, List.all_eq_true.mp (by decide)⟩
  build := some ⟨"b.2-".toList, by decide, List.all_eq_true.mp (by decide)⟩

theorem read_exact_foreign :
    read " v1\u0663.0-RC-.1+b.2-\t" = .ok (some ⟨13, 0, 0, "RC-.1"⟩) ∧
      read "13.0.0-RC-.1" = .ok (some ⟨13, 0, 0, "RC-.1"⟩) := by
  obtain ⟨hspelled, -, -, -, -, hown, -⟩ := read_exact " v1\u0663.0-RC-.1+b.2-\t" ⟨13, 0, 0, "RC-.1"⟩
  have hread : read " v1\u0663.0-RC-.1+b.2-\t" = .ok (some ⟨13, 0, 0, "RC-.1"⟩) :=
    hspelled.mpr ⟨foreignSpelling, by decide +kernel, by decide, by decide +kernel⟩
  obtain ⟨-, t, ht, hread'⟩ := hown hread
  obtain rfl : "13.0.0-RC-.1" = t := by
    have htext : Version.text ⟨13, 0, 0, "RC-.1"⟩ = .ok "13.0.0-RC-.1" := by decide +kernel
    exact Except.ok.inj (htext.symm.trans ht)
  exact ⟨hread, hread'⟩

/-! ## A numeral that is too long -/

/-- A version with one digit more than can be read. -/
def longSpelling : Spelling where
  major := .ones digitLimit
  minor := ⟨['0'], 0, .zero⟩

def longTitle : String :=
  String.ofList longSpelling.text

theorem trim_longTitle : trimChars longTitle.toList = longSpelling.text := by
  rw [longTitle, String.toList_ofList, longSpelling.unbroken.trimChars]

theorem longSpelling_not_isShort : ¬longSpelling.IsShort := by
  intro hshort
  have hmajor := hshort (.ones digitLimit) (by simp [Spelling.numerals, longSpelling])
  simp [Numeral.ones] at hmajor

theorem read_longTitle : read longTitle = .error .numeralTooLong := by
  rw [read_of_spelling trim_longTitle, if_neg longSpelling_not_isShort]

/-- **A spelling of a version can break the reading off**, and a version without negative numbers can be too long to be
written. -/
theorem long_spelling_unread :
    trimChars longTitle.toList = longSpelling.text ∧ longSpelling.version.Regular ∧
      read longTitle = .error .numeralTooLong ∧ longSpelling.version.text = .error .numeralTooLong := by
  refine ⟨trim_longTitle, longSpelling.regular, read_longTitle, ?_⟩
  rw [Version.text, if_neg fun hwritable => longSpelling_not_isShort (longSpelling.isWritable_version.mp hwritable)]

end RunSteward.Version
