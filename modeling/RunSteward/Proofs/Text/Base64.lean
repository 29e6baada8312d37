import RunSteward.Text.Base64
import RunSteward.Text.Line

/-!
# Base64 read back

The base64 form of bytes is read as these bytes, wherever line breaks are put into it (`Wraps.decode`).
-/

namespace RunSteward.Text.Base64

/-! ## The form of bytes -/

/-- The characters of the alphabet, each at the place of its value. -/
def alphabet : List Char :=
  "ABCDEFGHIJKLMNOPQRSTUVWXYZabcdefghijklmnopqrstuvwxyz0123456789+/".toList

/-- The character of a sextet. -/
def letter (n : Nat) : Char :=
  alphabet.getD n '='

/-- Four characters for three bytes; padding stands in for what the last group lacks. -/
def encode : List UInt8 → List Char
  | [] => []
  | [a] => [letter (a.toNat / 4), letter (16 * (a.toNat % 4)), '=', '=']
  | [a, b] => [letter (a.toNat / 4), letter (16 * (a.toNat % 4) + b.toNat / 16), letter (4 * (b.toNat % 16)), '=']
  | a :: b :: c :: rest =>
    letter (a.toNat / 4) :: letter (16 * (a.toNat % 4) + b.toNat / 16) ::
      letter (4 * (b.toNat % 16) + c.toNat / 64) :: letter (c.toNat % 64) :: encode rest

/-- A line break in ASCII, as base64 is written in. -/
def isBreak (c : Char) : Bool :=
  isLineBreak c && c.toNat < 0x80

/-- A text that is the base64 form of bytes, with line breaks put in anywhere. -/
def Wraps (content : String) (bytes : List UInt8) : Prop :=
  content.toList.filter (fun c => !isBreak c) = encode bytes

instance (content : String) (bytes : List UInt8) : Decidable (Wraps content bytes) :=
  inferInstanceAs (Decidable (_ = _))

/-! ## Reading a character -/

variable {group : List Nat} {pads : Nat} {c : Char} {cs : List Char}

theorem sextet?_letter (n : Fin 64) : sextet? (letter n) = some n.val ∧ letter n ≠ '=' ∧ (letter n).toNat < 0x80 := by
  revert n
  decide +kernel

/-- A character that counts when base64 is read. -/
def counts (c : Char) : Bool :=
  c = '=' || (sextet? c).isSome

theorem counts_letter {n : Nat} (h : n < 64) : counts (letter n) = true := by
  simp [counts, (sextet?_letter ⟨n, h⟩).1]

theorem counts_of_isBreak (h : isBreak c = true) : counts c = false := by
  have hall : ['\n', '\r', '\x0b', '\x0c', '\x1c', '\x1d', '\x1e', '\u0085', '\u2028', '\u2029'].all
      (fun c => !counts c) = true := by decide
  have hbreak : isLineBreak c = true := (Bool.and_eq_true_iff.mp h).1
  simpa using List.all_eq_true.mp hall c (by simpa [isLineBreak] using hbreak)

theorem decodeFrom_letter {n : Nat} (h : n < 64) (hgroup : group.length ≠ 3) :
    decodeFrom group pads (letter n :: cs) = decodeFrom (group ++ [n]) 0 cs := by
  obtain ⟨hsextet, hpad, -⟩ := sextet?_letter ⟨n, h⟩
  simp only [decodeFrom, if_neg hpad, hsextet, if_neg hgroup]

theorem decodeFrom_fourth {n : Nat} (h : n < 64) (hgroup : group.length = 3) :
    decodeFrom group pads (letter n :: cs) = (decodeFrom [] 0 cs).map (groupBytes (group ++ [n]) ++ ·) := by
  obtain ⟨hsextet, hpad, -⟩ := sextet?_letter ⟨n, h⟩
  simp only [decodeFrom, if_neg hpad, hsextet, if_pos hgroup]

theorem decodeFrom_skip (h : counts c = false) : decodeFrom group pads (c :: cs) = decodeFrom group pads cs := by
  simp only [counts, Bool.or_eq_false_iff, decide_eq_false_iff_not, Option.isSome_eq_false_iff,
    Option.isNone_iff_eq_none] at h
  rw [decodeFrom, if_neg h.1, h.2]

/-- Reading passes over what does not count, by induction on the text. -/
theorem decodeFrom_filter (group : List Nat) (pads : Nat) (cs : List Char) :
    decodeFrom group pads (cs.filter counts) = decodeFrom group pads cs := by
  induction cs generalizing group pads with
  | nil => rfl
  | cons c cs ih =>
    cases hc : counts c with
    | false => rw [List.filter_cons_of_neg (by simp [hc]), decodeFrom_skip hc, ih]
    | true =>
      rw [List.filter_cons_of_pos hc, decodeFrom, decodeFrom]
      simp only [ih]

/-! ## Reading bytes back -/

theorem toUInt8_of_eq {a : UInt8} {n : Nat} (h : n = a.toNat) : n.toUInt8 = a := by
  rw [h, Nat.toUInt8, UInt8.ofNat_toNat]

theorem encode_counts (bytes : List UInt8) : ∀ c ∈ encode bytes, counts c = true ∧ c.toNat < 0x80 := by
  have hletter : ∀ n, n < 64 → counts (letter n) = true ∧ (letter n).toNat < 0x80 := fun n h =>
    ⟨counts_letter h, (sextet?_letter ⟨n, h⟩).2.2⟩
  have hpad : counts '=' = true ∧ '='.toNat < 0x80 := by decide
  induction bytes using encode.induct with
  | case1 => simp [encode]
  | case2 a =>
    have ha := a.toNat_lt
    rw [encode]
    simp only [List.forall_mem_cons]
    exact ⟨hletter _ (by omega), hletter _ (by omega), hpad, hpad, by simp⟩
  | case3 a b =>
    have ha := a.toNat_lt
    have hb := b.toNat_lt
    rw [encode]
    simp only [List.forall_mem_cons]
    exact ⟨hletter _ (by omega), hletter _ (by omega), hletter _ (by omega), hpad, by simp⟩
  | case4 a b c rest ih =>
    have ha := a.toNat_lt
    have hb := b.toNat_lt
    have hc := c.toNat_lt
    rw [encode]
    simp only [List.forall_mem_cons]
    exact ⟨hletter _ (by omega), hletter _ (by omega), hletter _ (by omega), hletter _ (by omega), ih⟩

/-- Two sextets hold a byte, three hold two bytes and four hold three. -/
theorem groupBytes_sextets (a b c : UInt8) :
    groupBytes [a.toNat / 4, 16 * (a.toNat % 4)] = [a] ∧
      groupBytes [a.toNat / 4, 16 * (a.toNat % 4) + b.toNat / 16, 4 * (b.toNat % 16)] = [a, b] ∧
      groupBytes [a.toNat / 4, 16 * (a.toNat % 4) + b.toNat / 16, 4 * (b.toNat % 16) + c.toNat / 64, c.toNat % 64] =
        [a, b, c] := by
  have ha := a.toNat_lt
  have hb := b.toNat_lt
  have hc := c.toNat_lt
  refine ⟨?_, ?_, ?_⟩ <;> rw [groupBytes]
  · rw [toUInt8_of_eq (a := a) (by omega)]
  · rw [toUInt8_of_eq (a := a) (by omega), toUInt8_of_eq (a := b) (by omega)]
  · rw [toUInt8_of_eq (a := a) (by omega), toUInt8_of_eq (a := b) (by omega), toUInt8_of_eq (a := c) (by omega)]

/-- By induction on groups of three bytes. -/
theorem decodeFrom_encode (bytes : List UInt8) : decodeFrom [] 0 (encode bytes) = some bytes := by
  induction bytes using encode.induct with
  | case1 => rfl
  | case2 a =>
    have ha := a.toNat_lt
    rw [encode, decodeFrom_letter (by omega) (by simp), decodeFrom_letter (by omega) (by simp)]
    exact congrArg some (groupBytes_sextets a 0 0).1
  | case3 a b =>
    have ha := a.toNat_lt
    have hb := b.toNat_lt
    rw [encode, decodeFrom_letter (by omega) (by simp), decodeFrom_letter (by omega) (by simp),
      decodeFrom_letter (by omega) (by simp)]
    exact congrArg some (groupBytes_sextets a b 0).2.1
  | case4 a b c rest ih =>
    have ha := a.toNat_lt
    have hb := b.toNat_lt
    have hc := c.toNat_lt
    rw [encode, decodeFrom_letter (by omega) (by simp), decodeFrom_letter (by omega) (by simp),
      decodeFrom_letter (by omega) (by simp), decodeFrom_fourth (by omega) rfl, ih, Option.map_some]
    exact congrArg (fun group => some (group ++ rest)) (groupBytes_sextets a b c).2.2

/-! ## Line breaks put in -/

variable {content : String} {bytes : List UInt8}

theorem Wraps.ascii (h : Wraps content bytes) : ∀ c ∈ content.toList, c.toNat < 0x80 := by
  intro c hc
  cases hbreak : isBreak c with
  | true => exact of_decide_eq_true (Bool.and_eq_true_iff.mp hbreak).2
  | false =>
    have hkept : c ∈ encode bytes := h ▸ List.mem_filter.mpr ⟨hc, by simp [hbreak]⟩
    exact (encode_counts bytes c hkept).2

/-- **Line breaks do not count**: the base64 form of bytes, wrapped in whatever way, is read as these bytes. -/
theorem Wraps.decode (h : Wraps content bytes) : decode content = some bytes := by
  have hbreaks : content.toList.filter counts = (content.toList.filter fun c => !isBreak c).filter counts := by
    rw [List.filter_filter]
    refine List.filter_congr fun c _ => ?_
    cases hbreak : isBreak c with
    | true => simp [counts_of_isBreak hbreak]
    | false => simp
  have hencoded : (encode bytes).filter counts = encode bytes :=
    List.filter_eq_self.mpr fun c hc => (encode_counts bytes c hc).1
  rw [Base64.decode, ← decodeFrom_filter, hbreaks, h, hencoded, decodeFrom_encode]

/-- A text in two lines, the second of which ends with padding. -/
example : Wraps "dmVy\nc2k=\n" "versi".toUTF8.data.toList := by decide +kernel

end RunSteward.Text.Base64
