import RunSteward.Proofs.Json.LiteralReading

/-!
# Objects of texts

An object whose members are texts, each with a name of its own, is written in visible ASCII (`write_texts_visible`) and
read back as it was (`read_write_texts`), whatever characters the texts hold.
-/

namespace RunSteward.Json

variable {name : String} {done : List (String × Json)}

/-- The members of an object of texts. -/
def texts (members : List (String × String)) : List (String × Json) :=
  members.map fun m => (m.1, .string m.2)

def memberText (m : String × String) : List Char :=
  (stringLiteral m.1).toList ++ ':' :: ' ' :: (stringLiteral m.2).toList

theorem put_new (h : name ∉ done.map Prod.fst) (v : Json) : put done name v = done ++ [(name, v)] := by
  induction done with
  | nil => rfl
  | cons m ms ih =>
    simp only [List.map_cons, List.mem_cons, not_or] at h
    rw [put, if_neg (Ne.symm h.1), ih h.2, List.cons_append]

theorem stringLiteral_eq_cons (s : String) : (stringLiteral s).toList = '"' :: (stringLiteral s).toList.tail := by
  simp [stringLiteral]

/-- A member is read, and what stands behind it decides how reading goes on. -/
theorem readMembers_member (fuel depth : Nat) (done : List (String × Json)) (m : String × String) (rest : List Char) :
    readMembers (fuel + 2) depth done (memberText m ++ rest) =
      match skipGap rest with
      | '\x7d' :: rest => .ok (.object (put done m.1 (.string m.2)), rest)
      | ',' :: rest => readMembers (fuel + 1) depth (put done m.1 (.string m.2)) (skipGap rest)
      | _ => .error .malformed := by
  have hvalue : readValue (fuel + 1) depth ((stringLiteral m.2).toList ++ rest) = .ok (.string m.2, rest) := by
    rw [stringLiteral_eq_cons, List.cons_append, readValue, readString_stringLiteral]
    rfl
  have hgap : skipGap (' ' :: ((stringLiteral m.2).toList ++ rest)) = (stringLiteral m.2).toList ++ rest := by
    rw [stringLiteral_eq_cons]
    rfl
  have hname : readString ((stringLiteral m.1).toList.tail ++ (':' :: ' ' :: (stringLiteral m.2).toList ++ rest)) =
      .ok (m.1, ':' :: ' ' :: ((stringLiteral m.2).toList ++ rest)) :=
    readString_stringLiteral _ _
  have hcolon : skipGap (':' :: ' ' :: ((stringLiteral m.2).toList ++ rest)) =
      ':' :: ' ' :: ((stringLiteral m.2).toList ++ rest) := rfl
  rw [memberText, stringLiteral_eq_cons m.1, List.cons_append, List.cons_append, List.append_assoc, readMembers, hname]
  simp only [bind, Except.bind, hcolon, hgap, hvalue]
  rfl

def membersText (members : List (String × String)) : List Char :=
  [',', ' '].intercalate (members.map memberText)

theorem put_texts {before ms : List (String × String)} {m : String × String}
    (h : ((before ++ m :: ms).map Prod.fst).Nodup) : put (texts before) m.1 (.string m.2) = texts (before ++ [m]) := by
  have hnew : m.1 ∉ before.map Prod.fst := by
    rw [List.map_append, List.map_cons] at h
    exact fun hmem => (List.nodup_append.mp h).2.2 _ hmem _ (List.mem_cons_self) rfl
  rw [put_new (by simpa [texts] using hnew)]
  simp [texts]

theorem membersText_cons (m m' : String × String) (ms : List (String × String)) (rest : List Char) :
    membersText (m :: m' :: ms) ++ rest = memberText m ++ ',' :: ' ' :: (membersText (m' :: ms) ++ rest) := by
  simp [membersText, List.intercalate_cons_cons]

theorem membersText_quote (m : String × String) (ms : List (String × String)) :
    ∃ behind, membersText (m :: ms) = '"' :: behind := by
  cases ms with
  | nil =>
    rw [membersText, List.map_singleton, List.intercalate_singleton, memberText, stringLiteral_eq_cons,
      List.cons_append]
    exact ⟨_, rfl⟩
  | cons m' ms =>
    rw [← List.append_nil (membersText _), membersText_cons, memberText, stringLiteral_eq_cons, List.cons_append,
      List.cons_append]
    exact ⟨_, rfl⟩

theorem skipGap_membersText (m : String × String) (ms : List (String × String)) (rest : List Char) :
    skipGap (membersText (m :: ms) ++ rest) = membersText (m :: ms) ++ rest := by
  obtain ⟨behind, hquote⟩ := membersText_quote m ms
  rw [hquote]
  rfl

/-- By induction on the members that are not read yet. -/
theorem readMembers_texts (before : List (String × String)) (m : String × String) (ms : List (String × String))
    (hnames : ((before ++ m :: ms).map Prod.fst).Nodup) (fuel depth : Nat) (rest : List Char) :
    readMembers (fuel + ms.length + 2) depth (texts before) (membersText (m :: ms) ++ '\x7d' :: rest) =
      .ok (.object (texts (before ++ m :: ms)), rest) := by
  induction ms generalizing before m with
  | nil =>
    rw [membersText, List.map_singleton, List.intercalate_singleton, readMembers_member, put_texts hnames]
    rfl
  | cons m' ms ih =>
    have hgap : ∀ after, skipGap (',' :: after) = ',' :: after := fun _ => rfl
    rw [membersText_cons, readMembers_member, put_texts hnames, hgap]
    change readMembers _ _ _ (skipGap (membersText (m' :: ms) ++ '\x7d' :: rest)) = _
    rw [skipGap_membersText]
    have hrest := ih (before ++ [m]) m' (by rwa [List.append_assoc, List.singleton_append])
    rwa [List.append_assoc, List.singleton_append] at hrest

theorem writeMembers_texts (members : List (String × String)) :
    (writeMembers (texts members)).map String.toList = members.map memberText := by
  induction members with
  | nil => rfl
  | cons m ms ih =>
    rw [texts, List.map_cons, writeMembers, List.map_cons, List.map_cons, ← ih]
    simp [write, memberText, texts]

theorem toList_write_texts (members : List (String × String)) :
    (write (.object (texts members))).toList = '\x7b' :: (membersText members ++ ['\x7d']) := by
  rw [write, String.toList_append, String.toList_append, String.toList_intercalate, writeMembers_texts]
  rfl

theorem memberText_visible {m : String × String} {c : Char} (h : c ∈ memberText m) :
    0x20 ≤ c.toNat ∧ c.toNat ≤ 0x7e := by
  rcases List.mem_append.mp h with hname | hrest
  · exact stringLiteral_visible _ hname
  · simp only [List.mem_cons] at hrest
    rcases hrest with rfl | rfl | hvalue
    · decide
    · decide
    · exact stringLiteral_visible _ hvalue

theorem membersText_visible {members : List (String × String)} {c : Char} (h : c ∈ membersText members) :
    0x20 ≤ c.toNat ∧ c.toNat ≤ 0x7e := by
  induction members with
  | nil => simp [membersText] at h
  | cons m ms ih =>
    cases ms with
    | nil => exact memberText_visible (by simpa [membersText] using h)
    | cons m' ms =>
      rw [← List.append_nil (membersText _), membersText_cons, List.append_nil, List.mem_append, List.mem_cons,
        List.mem_cons] at h
      rcases h with hfirst | rfl | rfl | hrest
      · exact memberText_visible hfirst
      · decide
      · decide
      · exact ih hrest

theorem write_texts_visible {members : List (String × String)} {c : Char}
    (h : c ∈ (write (.object (texts members))).toList) : 0x20 ≤ c.toNat ∧ c.toNat ≤ 0x7e := by
  rw [toList_write_texts, List.mem_cons, List.mem_append, List.mem_singleton] at h
  rcases h with rfl | hmembers | rfl
  · decide
  · exact membersText_visible hmembers
  · decide

theorem length_le_membersText (members : List (String × String)) : members.length ≤ (membersText members).length := by
  induction members with
  | nil => simp
  | cons m ms ih =>
    cases ms with
    | nil =>
      obtain ⟨behind, hquote⟩ := membersText_quote m []
      simp [hquote]
    | cons m' ms =>
      have hlength := congrArg List.length (membersText_cons m m' ms [])
      simp only [List.append_nil, List.length_append, List.length_cons] at hlength ih ⊢
      omega

/-- **Objects of texts are read back**, wherever an object may stand. -/
theorem read_write_texts (members : List (String × String)) (hnames : (members.map Prod.fst).Nodup) (depth : Nat) :
    read (depth + 1) (write (.object (texts members))) = .ok (some (.object (texts members))) := by
  cases members with
  | nil => rfl
  | cons m ms =>
    have hlength := length_le_membersText (m :: ms)
    obtain ⟨fuel, hfuel⟩ : ∃ fuel, 2 * ((membersText (m :: ms)).length + 2) = fuel + ms.length + 2 :=
      ⟨2 * ((membersText (m :: ms)).length + 1) - ms.length, by simp at hlength; omega⟩
    have hread := readMembers_texts [] m ms hnames fuel depth []
    rw [← hfuel] at hread
    have hvalue : readValue (2 * ((membersText (m :: ms)).length + 2) + 1) (depth + 1)
        ('\x7b' :: (membersText (m :: ms) ++ ['\x7d'])) = .ok (.object (texts (m :: ms)), []) := by
      rw [readValue, skipGap_membersText]
      obtain ⟨behind, hquote⟩ := membersText_quote m ms
      rw [hquote] at hread ⊢
      exact hread
    have hbrace : skipGap ('\x7b' :: (membersText (m :: ms) ++ ['\x7d'])) =
        '\x7b' :: (membersText (m :: ms) ++ ['\x7d']) := rfl
    have hsize : ('\x7b' :: (membersText (m :: ms) ++ ['\x7d'])).length = (membersText (m :: ms)).length + 2 := by
      simp
    rw [read, toList_write_texts, hbrace]
    simp only [hsize, hvalue]
    rfl

end RunSteward.Json
