import RunSteward.Text.Line

/-!
# Cutting and joining

A text that was put together from parts with a separator between them is cut into these parts again: the fields before
the first separator (`fields_append`), the parts before and after it (`cut?_append`), all of the parts
(`fields_intercalate`); and joining the fields gives the text back (`intercalate_fields`). Unifying the line ends of a
text goes on behind a carriage return that it has passed (`unifyLineEnds_append`), so the lines of a printed text are
the
lines it was printed from (`fields_line`). What ends no line adds no line where it is put into a text
(`length_lines_insert`). Where a line begins, the lines of a text fall into those before and those behind
(`lines_append`).
-/

namespace RunSteward.Text

variable {sep : Char} {a b : List Char}

theorem fields_ne_nil (sep : Char) (s : List Char) : fields sep s ≠ [] := by
  cases s with
  | nil => simp [fields]
  | cons c cs =>
    by_cases h : c = sep
    · simp [fields, h]
    · unfold fields
      rw [if_neg h]
      split <;> simp

theorem fields_cons_of_ne {c : Char} {f : List Char} {fs : List (List Char)} (h : c ≠ sep)
    (hf : fields sep b = f :: fs) : fields sep (c :: b) = (c :: f) :: fs := by
  rw [fields, if_neg h, hf]

theorem fields_append (h : sep ∉ a) (b : List Char) : fields sep (a ++ sep :: b) = a :: fields sep b := by
  induction a with
  | nil => simp [fields]
  | cons c a ih =>
    have hc : c ≠ sep := fun heq => h (by simp [heq])
    have ha : sep ∉ a := fun hmem => h (by simp [hmem])
    exact fields_cons_of_ne hc (ih ha)

theorem fields_of_not_mem (h : sep ∉ a) : fields sep a = [a] := by
  induction a with
  | nil => rfl
  | cons c a ih =>
    have hc : c ≠ sep := fun heq => h (by simp [heq])
    have ha : sep ∉ a := fun hmem => h (by simp [hmem])
    exact fields_cons_of_ne hc (ih ha)

theorem intercalate_fields (sep : Char) (s : List Char) : [sep].intercalate (fields sep s) = s := by
  induction s with
  | nil => rfl
  | cons c cs ih =>
    obtain ⟨f, fs, hfields⟩ := List.exists_cons_of_ne_nil (fields_ne_nil sep cs)
    rw [hfields] at ih
    by_cases h : c = sep
    · have hcut : fields sep (c :: cs) = [] :: f :: fs := by rw [fields, if_pos h, hfields]
      rw [hcut, List.intercalate_cons_cons, ih, h]
      rfl
    · rw [fields_cons_of_ne h hfields]
      -- the character stands in front of the first field, however many fields there are
      cases fs with
      | nil =>
        rw [List.intercalate_singleton] at ih ⊢
        rw [ih]
      | cons g gs =>
        rw [List.intercalate_cons_cons] at ih ⊢
        rw [List.cons_append, List.cons_append, ih]

theorem fields_intercalate {parts : List (List Char)} (hne : parts ≠ []) (h : ∀ p ∈ parts, sep ∉ p) :
    fields sep ([sep].intercalate parts) = parts := by
  induction parts with
  | nil => exact absurd rfl hne
  | cons p ps ih =>
    have hp : sep ∉ p := h p (by simp)
    cases ps with
    | nil => rw [List.intercalate_singleton, fields_of_not_mem hp]
    | cons q qs =>
      rw [List.intercalate_cons_cons, List.append_assoc, List.singleton_append, fields_append hp,
        ih (by simp) fun r hr => h r (List.mem_cons_of_mem _ hr)]

theorem not_mem_of_mem_fields {s f : List Char} (h : f ∈ fields sep s) : sep ∉ f := by
  induction s generalizing f with
  | nil =>
    obtain rfl : f = [] := by simpa [fields] using h
    simp
  | cons c cs ih =>
    obtain ⟨g, gs, hfields⟩ := List.exists_cons_of_ne_nil (fields_ne_nil sep cs)
    by_cases hc : c = sep
    · have hcut : f = [] ∨ f ∈ fields sep cs := by simpa [fields, hc] using h
      rcases hcut with rfl | hmem
      · simp
      · exact ih hmem
    · rw [fields_cons_of_ne hc hfields] at h
      rw [hfields] at ih
      rcases List.mem_cons.mp h with rfl | hmem
      · have hg := ih (f := g) (by simp)
        simp [hg, Ne.symm hc]
      · exact ih (List.mem_cons_of_mem _ hmem)

theorem intercalate_cons (part : List Char) (parts : List (List Char)) :
    [sep].intercalate (part :: parts) = part ++ parts.flatMap fun p => sep :: p := by
  induction parts generalizing part with
  | nil => simp
  | cons p ps ih => rw [List.intercalate_cons_cons, ih, List.flatMap_cons, List.append_assoc, List.singleton_append,
    List.cons_append]

theorem cut?_append (h : sep ∉ a) (b : List Char) : cut? sep (a ++ sep :: b) = some (a, b) := by
  induction a with
  | nil => simp [cut?]
  | cons c a ih =>
    have hc : c ≠ sep := fun heq => h (by simp [heq])
    have ha : sep ∉ a := fun hmem => h (by simp [hmem])
    rw [List.cons_append, cut?, if_neg hc, ih ha]
    rfl

theorem cut?_eq_some {s : List Char} (h : cut? sep s = some (a, b)) : s = a ++ sep :: b := by
  induction s generalizing a with
  | nil => cases h
  | cons c cs ih =>
    rw [cut?] at h
    split at h
    · rename_i hc
      obtain ⟨rfl, rfl⟩ := Prod.mk.inj (Option.some.inj h)
      rw [hc, List.nil_append]
    · obtain ⟨p, hp, hpair⟩ := Option.map_eq_some_iff.mp h
      obtain ⟨rfl, rfl⟩ := Prod.mk.inj hpair
      rw [ih hp, List.cons_append]

theorem unifyLineEnds_cons_of_ne {c : Char} (h : c ≠ '\r') (b : List Char) :
    unifyLineEnds (c :: b) = c :: unifyLineEnds b := by
  rw [unifyLineEnds]
  rintro cs rfl -
  exact h rfl

theorem unifyLineEnds_append (h : '\r' ∉ a) (b : List Char) : unifyLineEnds (a ++ b) = a ++ unifyLineEnds b := by
  induction a with
  | nil => rfl
  | cons c a ih =>
    have hc : c ≠ '\r' := fun heq => h (by simp [heq])
    have ha : '\r' ∉ a := fun hmem => h (by simp [hmem])
    rw [List.cons_append, unifyLineEnds_cons_of_ne hc, ih ha, List.cons_append]

/-- What ends a line of a text. -/
inductive LineEnd where
  | lf
  | crlf

def LineEnd.text : LineEnd → List Char
  | .lf => ['\n']
  | .crlf => ['\r', '\n']

/-- A text that stays on one line. -/
def Inline (s : List Char) : Prop :=
  '\r' ∉ s ∧ '\n' ∉ s

instance (s : List Char) : Decidable (Inline s) :=
  inferInstanceAs (Decidable (_ ∧ _))

theorem unifyLineEnds_end (e : LineEnd) (b : List Char) : unifyLineEnds (e.text ++ b) = '\n' :: unifyLineEnds b := by
  cases e with
  | lf => exact unifyLineEnds_cons_of_ne (by decide) b
  | crlf => rfl

theorem fields_line (h : Inline a) (e : LineEnd) (b : List Char) :
    fields '\n' (unifyLineEnds (a ++ e.text ++ b)) = a :: fields '\n' (unifyLineEnds b) := by
  rw [List.append_assoc, unifyLineEnds_append h.1, unifyLineEnds_end, fields_append h.2]

/-- A line as it is printed, with what ends it. -/
structure PrintedLine where
  content : List Char
  lineEnd : LineEnd
  content_inline : Inline content := by decide

def PrintedLine.text (l : PrintedLine) : List Char :=
  l.content ++ l.lineEnd.text

theorem fields_printed (ls : List PrintedLine) (b : List Char) :
    fields '\n' (unifyLineEnds (ls.flatMap PrintedLine.text ++ b)) =
      ls.map PrintedLine.content ++ fields '\n' (unifyLineEnds b) := by
  induction ls with
  | nil => rfl
  | cons l ls ih =>
    rw [List.flatMap_cons, List.append_assoc, PrintedLine.text, fields_line l.content_inline, ih]
    rfl

/-! ## Counting lines -/

/-- A text that ends no line. -/
def Breakless (s : List Char) : Prop :=
  ∀ c ∈ s, isLineBreak c = false

instance (s : List Char) : Decidable (Breakless s) :=
  List.decidableBAll _ s

theorem Breakless.append (ha : Breakless a) (hb : Breakless b) : Breakless (a ++ b) := by
  intro c hc
  rcases List.mem_append.mp hc with hc | hc
  · exact ha c hc
  · exact hb c hc

theorem Breakless.cons {c : Char} (hc : isLineBreak c = false) (ha : Breakless a) : Breakless (c :: a) :=
  List.forall_mem_cons.mpr ⟨hc, ha⟩

theorem lines_break {c : Char} (h : isLineBreak c = true) (hnext : c = '\r' → b.head? ≠ some '\n') :
    lines (c :: b) = [] :: lines b := by
  rw [lines, if_pos h]
  rintro cs rfl rfl
  exact hnext rfl rfl

theorem lines_plain {c : Char} (h : isLineBreak c = false) :
    lines (c :: b) = (c :: (lines b).headD []) :: (lines b).tail := by
  rw [lines, if_neg (by simp [h])]
  · cases lines b <;> rfl
  · rintro cs rfl -
    cases h

theorem length_lines_break {c : Char} (h : isLineBreak c = true) (hnext : c = '\r' → b.head? ≠ some '\n') :
    (lines (c :: b)).length = (lines b).length + 1 := by
  rw [lines_break h hnext, List.length_cons]

theorem length_lines_cons {c : Char} (h : isLineBreak c = false) :
    (lines (c :: b)).length = max 1 (lines b).length := by
  rw [lines_plain h, List.length_cons, List.length_tail]
  omega

theorem length_lines_pos (hne : b ≠ []) : 1 ≤ (lines b).length := by
  cases b using lines.fun_cases with
  | case1 => exact absurd rfl hne
  | case2 cs => simp [lines]
  | case3 c cs _ hbreak => simp [lines, hbreak]
  | case4 c cs _ hbreak | case5 c cs _ hbreak =>
    rw [length_lines_cons (Bool.eq_false_iff.mpr hbreak)]
    exact Nat.le_max_left _ _

theorem length_lines_append (h : Breakless a) (hne : b ≠ []) :
    (lines (a ++ b)).length = (lines b).length := by
  induction a with
  | nil => rfl
  | cons c a ih =>
    have hrest := ih fun d hd => h d (List.mem_cons_of_mem _ hd)
    rw [List.cons_append, length_lines_cons (h c List.mem_cons_self), hrest]
    exact Nat.max_eq_right (length_lines_pos hne)

/-- How many lines a text has behind a character that is no line feed does not depend on what stands in front of it. -/
theorem length_lines_behind (front : List Char) {c : Char} (hc : c ≠ '\n') {b b' : List Char}
    (h : (lines (c :: b)).length = (lines (c :: b')).length) :
    (lines (front ++ c :: b)).length = (lines (front ++ c :: b')).length := by
  induction front using lines.induct with
  | case1 => exact h
  | case2 cs ih => simp [lines, ih]
  | case3 d cs hcrlf hbreak ih =>
    -- a carriage return at the end is not followed by a line feed, so it counts for itself
    have hnext : ∀ e : List Char, d = '\r' → (cs ++ c :: e).head? ≠ some '\n' := by
      rintro e rfl hhead
      cases cs with
      | nil => exact hc (by simpa using hhead)
      | cons x cs =>
        obtain rfl : x = '\n' := by simpa using hhead
        exact hcrlf cs rfl rfl
    rw [List.cons_append, List.cons_append, length_lines_break hbreak (hnext b), length_lines_break hbreak (hnext b'),
      ih]
  | case4 d cs _ hbreak _ ih | case5 d cs _ hbreak _ _ _ ih =>
    have hplain : isLineBreak d = false := Bool.eq_false_iff.mpr hbreak
    rw [List.cons_append, List.cons_append, length_lines_cons hplain, length_lines_cons hplain, ih]

/-- What ends no line adds no line where it is put into a text behind a space. -/
theorem length_lines_insert (front : List Char) (h : Breakless a) (hne : b ≠ []) :
    (lines (front ++ ' ' :: (a ++ b))).length = (lines (front ++ ' ' :: b)).length := by
  refine length_lines_behind front (by decide) ?_
  rw [length_lines_cons (by decide), length_lines_cons (by decide), length_lines_append h hne]

/-! ## Lines of a joined text -/

section Joined

variable {front back : List Char} {c : Char}

/-- A text behind which a line begins: it is empty, or it ends with a line break. -/
def BeginsLine (front : List Char) : Prop :=
  ∀ c ∈ front.getLast?, isLineBreak c = true

/-- A text in front of which a line ends: it is empty, or it begins with a line break. -/
def EndsLine (back : List Char) : Prop :=
  ∀ c ∈ back.head?, isLineBreak c = true

/-- A run of line breaks. -/
def IsBreak (s : List Char) : Prop :=
  s ≠ [] ∧ ∀ c ∈ s, isLineBreak c = true

instance (front : List Char) : Decidable (BeginsLine front) :=
  decidable_of_iff ((front.getLast?.all isLineBreak) = true) (Option.all_eq_true _ _)

instance (back : List Char) : Decidable (EndsLine back) :=
  decidable_of_iff ((back.head?.all isLineBreak) = true) (Option.all_eq_true _ _)

instance (s : List Char) : Decidable (IsBreak s) :=
  decidable_of_iff (s ≠ [] ∧ s.all isLineBreak = true) (and_congr_right fun _ => List.all_eq_true)

theorem IsBreak.single (h : isLineBreak c = true) : IsBreak [c] :=
  ⟨List.cons_ne_nil c [], by simpa using h⟩

theorem IsBreak.begins {brk : List Char} (h : IsBreak brk) (front : List Char) : BeginsLine (front ++ brk) := by
  intro c hc
  obtain ⟨d, hd⟩ := Option.isSome_iff_exists.mp (List.getLast?_isSome.mpr h.1)
  obtain rfl : d = c := by simpa [List.getLast?_append, hd] using hc
  exact h.2 d (List.mem_of_getLast? hd)

theorem BeginsLine.tail (h : BeginsLine (c :: front)) : BeginsLine front := by
  intro d hd
  refine h d ?_
  rw [List.getLast?_cons, hd]
  rfl

theorem lines_single (h : isLineBreak c = true) : lines [c] = [[]] := by
  rw [lines_break h (by simp), lines]

theorem lines_ne_nil (h : back ≠ []) : lines back ≠ [] := by
  intro hnil
  have hpos := length_lines_pos h
  simp [hnil] at hpos

theorem lines_breakless (h : Breakless front) (hne : front ≠ []) : lines front = [front] := by
  induction front with
  | nil => exact absurd rfl hne
  | cons c cs ih =>
    rw [lines_plain (h c List.mem_cons_self)]
    cases cs with
    | nil => rfl
    | cons d ds =>
      rw [ih (fun e he => h e (List.mem_cons_of_mem _ he)) (by simp)]
      rfl

/-- A line break ends a line, unless it is a carriage return in front of a line feed. -/
theorem lines_break_append (h : isLineBreak c = true) (hcrlf : ∀ rest, c = '\r' → front ≠ '\n' :: rest)
    (back : List Char) :
    lines (c :: (front ++ back)) = [] :: lines (front ++ back) ∧ lines (c :: front) = [] :: lines front ∨
      c = '\r' ∧ front = [] ∧ ∃ rest, back = '\n' :: rest := by
  have hfront : c = '\r' → front.head? ≠ some '\n' := by
    intro hc hhead
    obtain ⟨rest, rfl⟩ := List.head?_eq_some_iff.mp hhead
    exact hcrlf rest hc rfl
  by_cases hmerged : c = '\r' ∧ (front ++ back).head? = some '\n'
  · right
    obtain ⟨rfl, hhead⟩ := hmerged
    cases front with
    | nil => exact ⟨rfl, rfl, List.head?_eq_some_iff.mp hhead⟩
    | cons d front => exact absurd hhead (hfront rfl)
  · exact .inl ⟨lines_break h fun hc hhead => hmerged ⟨hc, hhead⟩, lines_break h hfront⟩

/-- Where a line begins, the lines of a text fall into those before and those behind. A line feed there may belong to
the carriage return in front of it. -/
theorem lines_append (h : BeginsLine front) (back : List Char) :
    ∃ rest, lines (front ++ back) = lines front ++ lines rest ∧ (back = rest ∨ back = '\n' :: rest) := by
  induction front using lines.induct with
  | case1 => exact ⟨back, rfl, .inl rfl⟩
  | case2 cs ih =>
    obtain ⟨rest, hlines, hrest⟩ := ih h.tail.tail
    exact ⟨rest, by simp [lines, hlines], hrest⟩
  | case3 c cs hcrlf hbreak ih =>
    obtain ⟨rest, hlines, hrest⟩ := ih h.tail
    rcases lines_break_append hbreak hcrlf back with ⟨hwhole, hfront⟩ | ⟨rfl, rfl, rest, rfl⟩
    · exact ⟨rest, by rw [List.cons_append, hwhole, hfront, hlines, List.cons_append], hrest⟩
    · exact ⟨rest, by simp [lines, isLineBreak], .inr rfl⟩
  | case4 c cs _ hbreak hnil ih | case5 c cs _ hbreak l ls hnil ih =>
    obtain ⟨rest, hlines, hrest⟩ := ih h.tail
    have hplain : isLineBreak c = false := Bool.eq_false_iff.mpr hbreak
    -- the text in front ends with a line break, so it does not end here
    have hne : lines cs ≠ [] := by
      refine lines_ne_nil fun hcs => ?_
      subst hcs
      exact hbreak (h c rfl)
    obtain ⟨m, ms, hms⟩ := List.exists_cons_of_ne_nil hne
    refine ⟨rest, ?_, hrest⟩
    rw [List.cons_append, lines_plain hplain, lines_plain hplain, hlines, hms]
    rfl

/-- A line break behind a text adds no line to it but an empty one. -/
theorem lines_append_break (h : isLineBreak c = true) (front : List Char) :
    ∃ rest, lines (front ++ [c]) = lines front ++ rest ∧ ∀ l ∈ rest, l = [] := by
  induction front using lines.induct with
  | case1 => exact ⟨[[]], lines_single h, by simp⟩
  | case2 cs ih =>
    obtain ⟨rest, hlines, hrest⟩ := ih
    exact ⟨rest, by simp [lines, hlines], hrest⟩
  | case3 d cs hcrlf hbreak ih =>
    obtain ⟨rest, hlines, hrest⟩ := ih
    rcases lines_break_append hbreak hcrlf [c] with ⟨hwhole, hfront⟩ | ⟨rfl, rfl, rest, hrest⟩
    · exact ⟨rest, by rw [List.cons_append, hwhole, hfront, hlines, List.cons_append], hrest⟩
    · obtain ⟨rfl, rfl⟩ := List.cons.inj hrest
      exact ⟨[], by simp [lines, isLineBreak], by simp⟩
  | case4 d cs _ hbreak hnil ih | case5 d cs _ hbreak l ls hnil ih =>
    obtain ⟨rest, hlines, hrest⟩ := ih
    have hplain : isLineBreak d = false := Bool.eq_false_iff.mpr hbreak
    by_cases hcs : cs = []
    · subst hcs
      exact ⟨[], by simp [lines_plain hplain, lines_single h, lines], by simp⟩
    · obtain ⟨m, ms, hms⟩ := List.exists_cons_of_ne_nil (lines_ne_nil hcs)
      refine ⟨rest, ?_, hrest⟩
      rw [List.cons_append, lines_plain hplain, lines_plain hplain, hlines, hms]
      rfl

end Joined

end RunSteward.Text
