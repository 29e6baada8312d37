import RunSteward.Json.Reader
import RunSteward.Proofs.Json.Literal

/-!
# Reading string literals

A string literal is read back as the text that it was written for, and what stands behind it is left untouched
(`readString_stringLiteral`). Each character is read by itself: its escape gives its units (`readUnits_escapeChar`), and
the two halves of a surrogate pair are joined again (`joinUnits_units`). The literal ends at the first quote that is not
escaped (`closeQuote?_escaped`).
-/

namespace RunSteward

theorem Json.hexValue?_hexDigit (i : Fin 16) : hexValue? (Text.hexDigit i.val) = some i.val := by
  revert i
  decide

namespace Json

/-! ## Escapes -/

theorem toNat_valid (c : Char) : c.toNat < 0xD800 ∨ (0xDFFF < c.toNat ∧ c.toNat < 0x110000) :=
  c.valid

/-- The number that is read for a character: its code point, or the two halves of a surrogate pair. -/
def units (c : Char) : List Nat :=
  if c.toNat < 0x10000 then [c.toNat]
  else [0xD800 + (c.toNat - 0x10000) / 0x400, 0xDC00 + (c.toNat - 0x10000) % 0x400]

theorem readUnits_unitEscape {u : Nat} (h : u < 0x10000) (rest : List Char) :
    readUnits (unitEscape u ++ rest) = (readUnits rest).map fun p => (u :: p.1, p.2) := by
  have hdigit : ∀ n, hexValue? (Text.hexDigit (n % 16)) = some (n % 16) := fun n =>
    hexValue?_hexDigit ⟨n % 16, Nat.mod_lt n (by decide)⟩
  have hunit : hexUnit? (Text.hexDigit (u / 16 / 16 / 16 % 16)) (Text.hexDigit (u / 16 / 16 % 16))
      (Text.hexDigit (u / 16 % 16)) (Text.hexDigit (u % 16)) = some u := by
    simp only [hexUnit?, hdigit, bind, Option.bind, pure]
    congr 1
    omega
  simp only [unitEscape, Text.hexDigits, List.nil_append, List.cons_append, readUnits, hunit]
  cases readUnits rest <;> rfl

theorem readUnits_short {e c : Char} (h : escaped? e = some c.toNat) (hsmall : c.toNat < 0x10000) (rest : List Char) :
    readUnits ('\\' :: e :: rest) = (readUnits rest).map fun p => (units c ++ p.1, p.2) := by
  have hu : e ≠ 'u' := by
    rintro rfl
    cases h
  have hunits : units c = [c.toNat] := if_pos hsmall
  rw [readUnits, h, hunits]
  · cases readUnits rest <;> rfl
  · rintro _ _ _ _ _ rfl -
    exact hu rfl

theorem readUnits_escapeChar (c : Char) (rest : List Char) :
    readUnits (escapeChar c ++ rest) = (readUnits rest).map fun p => (units c ++ p.1, p.2) := by
  unfold escapeChar
  split
  iterate 7 exact readUnits_short (by decide) (by decide) rest
  -- the characters that have no short escape
  rename_i hquote hslash _ _ _ _ _
  dsimp only
  split_ifs with hvisible hsmall
  · have hplain : ¬(decide (c = '\\') || decide (c.toNat < 0x20)) = true := by
      simp only [Bool.or_eq_true, decide_eq_true_eq, not_or]
      exact ⟨hslash, by omega⟩
    have hunits : units c = [c.toNat] := if_pos (by omega)
    rw [List.singleton_append, readUnits, if_neg hplain, hunits]
    · cases readUnits rest <;> rfl
    · exact hquote
    · exact fun _ _ _ _ _ heq _ => hslash heq
    · exact fun _ _ heq _ => hslash heq
  · rw [readUnits_unitEscape hsmall, units, if_pos hsmall]
    rfl
  · have hlast := toNat_valid c
    rw [List.append_assoc, readUnits_unitEscape (by omega), readUnits_unitEscape (by omega), units, if_neg hsmall]
    cases readUnits rest <;> rfl

theorem joinUnits_units (c : Char) (us : List Nat) : joinUnits (units c ++ us) = c :: joinUnits us := by
  have hvalid := toNat_valid c
  unfold units
  split_ifs with hsmall
  · have hwhole : ¬(0xD800 ≤ c.toNat ∧ c.toNat < 0xE000) := by omega
    cases us with
    | nil =>
      simp only [List.append_nil, joinUnits, if_neg hwhole, Char.ofNat_toNat]
    | cons u us =>
      have hhalf : ¬(0xD800 ≤ c.toNat ∧ c.toNat < 0xDC00 ∧ 0xDC00 ≤ u ∧ u < 0xE000) := by omega
      simp only [List.singleton_append, joinUnits, if_neg hhalf, if_neg hwhole, Char.ofNat_toNat]
  · have hpair : 0xD800 ≤ 0xD800 + (c.toNat - 0x10000) / 0x400 ∧ 0xD800 + (c.toNat - 0x10000) / 0x400 < 0xDC00 ∧
        0xDC00 ≤ 0xDC00 + (c.toNat - 0x10000) % 0x400 ∧ 0xDC00 + (c.toNat - 0x10000) % 0x400 < 0xE000 := by
      omega
    have hjoined : 0x10000 + (0xD800 + (c.toNat - 0x10000) / 0x400 - 0xD800) * 0x400 +
        (0xDC00 + (c.toNat - 0x10000) % 0x400 - 0xDC00) = c.toNat := by
      omega
    simp only [List.cons_append, List.nil_append, joinUnits, if_pos hpair, hjoined, Char.ofNat_toNat]

/-! ## Literals -/

theorem readUnits_escaped (s rest : List Char) :
    readUnits (s.flatMap escapeChar ++ '"' :: rest) = some (s.flatMap units, rest) := by
  induction s with
  | nil => rfl
  | cons c s ih => rw [List.flatMap_cons, List.append_assoc, readUnits_escapeChar, ih, List.flatMap_cons]; rfl

theorem joinUnits_flatMap (s : List Char) : joinUnits (s.flatMap units) = s := by
  induction s with
  | nil => rfl
  | cons c s ih => rw [List.flatMap_cons, joinUnits_units, ih]

/-- **String literals are read back**, whatever stands behind them. -/
theorem readString_stringLiteral (s : String) (rest : List Char) :
    readString ((stringLiteral s).toList.tail ++ rest) = .ok (s, rest) := by
  simp [stringLiteral, readString, readUnits_escaped, joinUnits_flatMap, orMalformed, Except.map]

/-! ## Closing quotes -/

/-- The text up to the first quote that is not escaped by a backslash, and the text behind that quote. -/
def closeQuote? : List Char → Option (List Char × List Char)
  | [] => none
  | '"' :: cs => some ([], cs)
  | '\\' :: e :: cs => (closeQuote? cs).map fun p => ('\\' :: e :: p.1, p.2)
  | c :: cs => (closeQuote? cs).map fun p => (c :: p.1, p.2)

theorem closeQuote?_eq_some {a inner behind : List Char} (h : closeQuote? a = some (inner, behind)) :
    a = inner ++ '"' :: behind ∧ ∀ rest, closeQuote? (inner ++ '"' :: rest) = some (inner, rest) := by
  induction a using closeQuote?.induct generalizing inner with
  | case1 => cases h
  | case2 cs =>
    obtain ⟨rfl, rfl⟩ := Prod.mk.inj (Option.some.inj h)
    exact ⟨rfl, fun rest => rfl⟩
  | case3 e cs ih =>
    rw [closeQuote?] at h
    obtain ⟨p, hp, heq⟩ := Option.map_eq_some_iff.mp h
    obtain ⟨rfl, rfl⟩ := Prod.mk.inj heq
    obtain ⟨rfl, hrest⟩ := ih hp
    exact ⟨rfl, fun rest => by rw [List.cons_append, List.cons_append, closeQuote?, hrest]; rfl⟩
  | case4 c cs hquote hescape ih =>
    rw [closeQuote?.eq_4 _ _ hquote hescape] at h
    obtain ⟨p, hp, heq⟩ := Option.map_eq_some_iff.mp h
    obtain ⟨rfl, rfl⟩ := Prod.mk.inj heq
    obtain ⟨rfl, hrest⟩ := ih hp
    -- a quote stands behind the character, so it is no backslash
    have hslash : c ≠ '\\' := by
      rintro rfl
      obtain ⟨e, rest, heq⟩ := List.exists_cons_of_ne_nil (l := p.1 ++ '"' :: p.2) (by simp)
      exact hescape e rest rfl heq
    refine ⟨rfl, fun rest => ?_⟩
    rw [List.cons_append, closeQuote?.eq_4 _ _ hquote fun _ _ heq _ => hslash heq, hrest]
    rfl

theorem closeQuote?_plain {a : List Char} (h : ∀ c ∈ a, c ≠ '"' ∧ c ≠ '\\') (rest : List Char) :
    closeQuote? (a ++ rest) = (closeQuote? rest).map fun p => (a ++ p.1, p.2) := by
  induction a with
  | nil => simp
  | cons c a ih =>
    obtain ⟨⟨hquote, hslash⟩, ha⟩ := List.forall_mem_cons.mp h
    rw [List.cons_append, closeQuote?.eq_4 _ _ hquote fun _ _ heq _ => hslash heq, ih ha, Option.map_map]
    rfl

theorem closeQuote?_unitEscape (u : Nat) (rest : List Char) :
    closeQuote? (unitEscape u ++ rest) = (closeQuote? rest).map fun p => (unitEscape u ++ p.1, p.2) := by
  have hdigit : ∀ i : Fin 16, Text.hexDigit i.val ≠ '"' ∧ Text.hexDigit i.val ≠ '\\' := by decide
  have hplain : ∀ c ∈ Text.hexDigits 4 u, c ≠ '"' ∧ c ≠ '\\' := by
    intro c hc
    obtain ⟨i, rfl⟩ := Text.exists_of_mem_hexDigits hc
    exact hdigit i
  rw [unitEscape, List.cons_append, List.cons_append, closeQuote?, closeQuote?_plain hplain, Option.map_map]
  rfl

theorem closeQuote?_escapeChar (c : Char) (rest : List Char) :
    closeQuote? (escapeChar c ++ rest) = (closeQuote? rest).map fun p => (escapeChar c ++ p.1, p.2) := by
  unfold escapeChar
  split
  iterate 7 rfl
  rename_i hquote hslash _ _ _ _ _
  dsimp only
  split_ifs with hvisible hsmall
  · exact closeQuote?_plain (by simpa using ⟨hquote, hslash⟩) rest
  · exact closeQuote?_unitEscape _ rest
  · rw [List.append_assoc, closeQuote?_unitEscape, closeQuote?_unitEscape, Option.map_map]
    simp [Function.comp_def]

/-- The quote that closes a literal is the first one that is not escaped. -/
theorem closeQuote?_escaped (s rest : List Char) :
    closeQuote? (s.flatMap escapeChar ++ '"' :: rest) = some (s.flatMap escapeChar, rest) := by
  induction s with
  | nil => rfl
  | cons c s ih => rw [List.flatMap_cons, List.append_assoc, closeQuote?_escapeChar, ih]; rfl

end Json

end RunSteward
