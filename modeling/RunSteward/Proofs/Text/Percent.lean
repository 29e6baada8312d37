import RunSteward.Json.Reader
import RunSteward.Proofs.Text.Line
import RunSteward.Text.Percent

/-!
# Percent encoding read back

What a text in percent encoding stands for is said here byte by byte (`percentBytes`), without regard to how such texts
are written. A segment of a path is read back as the text that it was written for (`percentText?_percentSegment`), and a
query as its parameters, in order and with their values (`parameters?_queryLine`). Neither can be broken out of: what is
written of a text holds no character that delimits a path, a segment or a parameter (`segment_char`, `query_char`).
-/

namespace RunSteward.Text

/-! ## What percent encoding stands for -/

/-- The byte that two hexadecimal digits stand for. -/
def hexByte? (a b : Char) : Option UInt8 := do
  let high ← Json.hexValue? a
  let low ← Json.hexValue? b
  return UInt8.ofNat (16 * high + low)

/-- The bytes that a text stands for. A percent sign without two digits behind it stands for itself. -/
def percentBytes : List Char → List UInt8
  | '%' :: a :: b :: s =>
    match hexByte? a b with
    | some byte => byte :: percentBytes s
    | none => String.utf8EncodeChar '%' ++ percentBytes (a :: b :: s)
  | c :: s => String.utf8EncodeChar c ++ percentBytes s
  | [] => []

/-- The text that a text in percent encoding stands for, if its bytes are a text. -/
def percentText? (s : List Char) : Option String :=
  String.fromUTF8? ⟨(percentBytes s).toArray⟩

/-- The text that a name or a value in a query stands for: here a plus sign is a space. -/
def formText? (s : List Char) : Option String :=
  percentText? (s.map fun c => if c = '+' then ' ' else c)

/-- The parameter that a name and a value with one equality sign between them stand for. -/
def parameter? (s : List Char) : Option (String × String) :=
  match fields '=' s with
  | [name, value] => do return (← formText? name, ← formText? value)
  | _ => none

/-- The parameters of a query, in order. -/
def parameters? (query : List Char) : Option (List (String × String)) :=
  (fields '&' query).mapM parameter?

/-! ## Bytes of texts -/

theorem toUTF8_eq (text : String) : text.toUTF8 = ⟨(text.toList.flatMap String.utf8EncodeChar).toArray⟩ := by
  have hbytes := String.toByteArray_ofList (l := text.toList)
  rw [String.ofList_toList, List.utf8Encode] at hbytes
  rw [String.toUTF8_eq_toByteArray, hbytes]
  exact ByteArray.ext List.data_toByteArray

theorem fromUTF8?_toUTF8 (text : String) : String.fromUTF8? text.toUTF8 = some text := by
  unfold String.fromUTF8?
  rw [String.toUTF8_eq_toByteArray, dif_pos text.isValidUTF8]
  rfl

/-! ## Characters that are written -/

theorem hexValue?_upperHexDigit (i : Fin 16) : Json.hexValue? (upperHexDigit i.val) = some i.val := by
  revert i
  decide

theorem isUnreserved_upperHexDigit (i : Fin 16) : isUnreserved (upperHexDigit i.val) = true := by
  revert i
  decide

theorem percentByte_digits (byte : UInt8) : ∃ high low : Fin 16, byte = UInt8.ofNat (16 * high + low) ∧
    percentByte byte = ['%', upperHexDigit high, upperHexDigit low] := by
  have hbyte : byte.toNat < 256 := byte.toNat_lt
  refine ⟨⟨byte.toNat / 16, by omega⟩, ⟨byte.toNat % 16, by omega⟩, ?_, rfl⟩
  rw [Nat.div_add_mod, UInt8.ofNat_toNat]

variable {c d : Char}

theorem percentChar_char (h : d ∈ percentChar (fun _ => false) c) : isUnreserved d = true ∨ d = '%' := by
  unfold percentChar at h
  split at h
  · rename_i hplain
    obtain rfl := List.mem_singleton.mp h
    exact .inl (by simpa using hplain)
  · obtain ⟨byte, -, hd⟩ := List.mem_flatMap.mp h
    obtain ⟨high, low, -, hdigits⟩ := percentByte_digits byte
    rw [hdigits, List.mem_cons, List.mem_cons, List.mem_singleton] at hd
    rcases hd with rfl | rfl | rfl
    · exact .inr rfl
    · exact .inl (isUnreserved_upperHexDigit high)
    · exact .inl (isUnreserved_upperHexDigit low)

theorem segment_char {s : String} (h : d ∈ (percentSegment s).toList) : isUnreserved d = true ∨ d = '%' := by
  rw [percentSegment, String.toList_ofList] at h
  obtain ⟨c, -, hd⟩ := List.mem_flatMap.mp h
  exact percentChar_char hd

theorem query_char {s : String} (h : d ∈ (queryText s).toList) : isUnreserved d = true ∨ d = '%' ∨ d = '+' := by
  rw [queryText, String.toList_ofList] at h
  obtain ⟨c, -, hd⟩ := List.mem_flatMap.mp h
  unfold queryChar at hd
  split at hd
  · exact .inr (.inr (List.mem_singleton.mp hd))
  · rcases percentChar_char hd with hd | hd
    · exact .inl hd
    · exact .inr (.inl hd)

/-! ## Reading back -/

theorem percentBytes_percentByte (byte : UInt8) (rest : List Char) :
    percentBytes (percentByte byte ++ rest) = byte :: percentBytes rest := by
  obtain ⟨high, low, rfl, hdigits⟩ := percentByte_digits byte
  have hbyte : hexByte? (upperHexDigit high) (upperHexDigit low) = some (UInt8.ofNat (16 * high + low)) := by
    simp only [hexByte?, hexValue?_upperHexDigit]
    rfl
  rw [hdigits]
  simp only [List.cons_append, List.nil_append, percentBytes, hbyte]

theorem percentBytes_flatMap (bytes : List UInt8) (rest : List Char) :
    percentBytes (bytes.flatMap percentByte ++ rest) = bytes ++ percentBytes rest := by
  induction bytes with
  | nil => rfl
  | cons byte bytes ih =>
    rw [List.flatMap_cons, List.append_assoc, percentBytes_percentByte, ih]
    rfl

theorem percentBytes_cons (h : c ≠ '%') (rest : List Char) :
    percentBytes (c :: rest) = String.utf8EncodeChar c ++ percentBytes rest := by
  rw [percentBytes]
  rintro a b s rfl
  exact absurd rfl h

theorem percentBytes_percentChar (c : Char) (rest : List Char) :
    percentBytes (percentChar (fun _ => false) c ++ rest) = String.utf8EncodeChar c ++ percentBytes rest := by
  unfold percentChar
  split
  · rename_i hplain
    refine percentBytes_cons ?_ rest
    rintro rfl
    exact absurd hplain (by decide)
  · exact percentBytes_flatMap _ rest

theorem percentText?_flatMap {write : Char → List Char}
    (h : ∀ c rest, percentBytes (write c ++ rest) = String.utf8EncodeChar c ++ percentBytes rest) (s : String) :
    percentText? (s.toList.flatMap write) = some s := by
  have hbytes : ∀ cs : List Char, percentBytes (cs.flatMap write) = cs.flatMap String.utf8EncodeChar := by
    intro cs
    induction cs with
    | nil => rfl
    | cons c cs ih => rw [List.flatMap_cons, List.flatMap_cons, h, ih]
  rw [percentText?, hbytes, ← toUTF8_eq, fromUTF8?_toUTF8]

theorem percentText?_percentSegment (s : String) : percentText? (percentSegment s).toList = some s := by
  rw [percentSegment, String.toList_ofList]
  exact percentText?_flatMap percentBytes_percentChar s

/-- With the plus signs replaced, a character of a query is a space or what it is in a segment. -/
theorem map_queryChar (c : Char) : (queryChar c).map (fun d => if d = '+' then ' ' else d) =
    if c = ' ' then [' '] else percentChar (fun _ => false) c := by
  unfold queryChar
  split
  · rfl
  · refine (List.map_congr_left fun d hd => ?_).trans (List.map_id _)
    have hplus : d ≠ '+' := by
      rintro rfl
      exact absurd (percentChar_char hd) (by decide)
    exact if_neg hplus

theorem formText?_queryText (s : String) : formText? (queryText s).toList = some s := by
  rw [formText?, queryText, String.toList_ofList, List.map_flatMap]
  refine percentText?_flatMap (fun c rest => ?_) s
  rw [map_queryChar]
  split
  · rename_i hspace
    obtain rfl := hspace
    exact percentBytes_cons (by decide) rest
  · exact percentBytes_percentChar c rest

theorem not_mem_queryText (hd : isUnreserved d = false) (hpercent : d ≠ '%') (hplus : d ≠ '+') (s : String) :
    d ∉ (queryText s).toList := by
  intro h
  rcases query_char h with h | h | h
  · rw [hd] at h
    cases h
  · exact hpercent h
  · exact hplus h

theorem parameter?_queryText (p : String × String) :
    parameter? ((queryText p.1).toList ++ '=' :: (queryText p.2).toList) = some p := by
  have hequals : ∀ s, '=' ∉ (queryText s).toList := not_mem_queryText (by decide) (by decide) (by decide)
  unfold parameter?
  rw [fields_append (hequals p.1), fields_of_not_mem (hequals p.2)]
  simp only [formText?_queryText]
  rfl

/-- **Queries are read back**: the parameters that a query was written for, in order. -/
theorem parameters?_queryLine {params : List (String × String)} (hne : params ≠ []) :
    parameters? (queryLine params).toList = some params := by
  have hline : (queryLine params).toList =
      ['&'].intercalate (params.map fun p => (queryText p.1).toList ++ '=' :: (queryText p.2).toList) := by
    have hparts : (params.map fun p => queryText p.1 ++ "=" ++ queryText p.2).map String.toList =
        params.map fun p => (queryText p.1).toList ++ '=' :: (queryText p.2).toList := by
      rw [List.map_map]
      refine List.map_congr_left fun p _ => ?_
      simp
    rw [queryLine, String.toList_intercalate, hparts]
    rfl
  have hampersand : ∀ s, '&' ∉ (queryText s).toList := not_mem_queryText (by decide) (by decide) (by decide)
  rw [parameters?, hline, fields_intercalate (by simpa using hne)]
  · rw [List.mapM_map]
    clear hline hne
    induction params with
    | nil => rfl
    | cons p ps ih =>
      rw [List.mapM_cons, Function.comp_apply, parameter?_queryText, Option.bind_eq_bind, Option.bind_some, ih]
      rfl
  · intro part hpart
    obtain ⟨p, -, rfl⟩ := List.mem_map.mp hpart
    simp [hampersand]

example : parameters? "per_page=100&branch=feature%2Fx+y%26z".toList =
    some [("per_page", "100"), ("branch", "feature/x y&z")] := by
  decide +kernel

end RunSteward.Text
