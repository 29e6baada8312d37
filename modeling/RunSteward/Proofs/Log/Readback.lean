import Mathlib.Data.List.Nodup
import RunSteward.Proofs.Json.LiteralReading
import RunSteward.Proofs.List.Sorting
import RunSteward.Proofs.Log.EventLine

/-!
# Reading the log back

A line of the log shows texts in two ways: as they stand, or as string literals if they hold a space or an equals sign.
A text that stands as it is ends at the next space, and a literal ends at its closing quote; so a line can be read back
if it is known of each text in which of the two ways it is shown (`render_append_inj`).

That is known from the first character, but for one kind of text: a text that begins with a quote which it does not
close, and that holds neither a space nor an equals sign (`Dangling`). It is shown as it stands, and then looks like the
beginning of a literal. Without such texts events with the same line are the same (`line_eq_iff`), and with them they
need not be (`dangling_line_shared`).
-/

namespace RunSteward

namespace LogValue

/-! ## Values in a line -/

/-- A text that is shown as it stands and looks like the beginning of a string literal. -/
def Dangling (s : List Char) : Prop :=
  needsQuotes s = false ∧ s.head? = some '"' ∧ (Json.closeQuote? s.tail).isNone = true

instance (s : List Char) : Decidable (Dangling s) :=
  inferInstanceAs (Decidable (_ ∧ _ ∧ _))

def literal (s : List Char) : List Char :=
  '"' :: (s.flatMap Json.escapeChar ++ ['"'])

variable {a b rest rest' : List Char}

theorem render_tidy {s : String} (h : Text.Tidy s.toList) :
    (text s).render = if needsQuotes s.toList then literal s.toList else s.toList := by
  have hplain : (text s).plain = s.toList := h.squash
  rw [render, hplain]
  simp only [String.ofList_toList, Json.stringLiteral, String.toList_ofList, literal]

theorem append_inj_of_unbroken (ha : Text.Unbroken a) (hb : Text.Unbroken b) (hrest : Text.Stops rest)
    (hrest' : Text.Stops rest') (h : a ++ rest = b ++ rest') : a = b ∧ rest = rest' := by
  have hsame : a = b := by rw [← ha.takeWhile_append hrest, h, hb.takeWhile_append hrest']
  subst hsame
  exact ⟨rfl, List.append_cancel_left h⟩

theorem append_inj_of_literal (h : literal a ++ rest = literal b ++ rest') : a = b ∧ rest = rest' := by
  have hread : ∀ s r : List Char, Json.readUnits (literal s ++ r).tail = some (s.flatMap Json.units, r) := by
    intro s r
    simp [literal, Json.readUnits_escaped]
  have hsame := (hread a rest).symm.trans ((congrArg (fun l => Json.readUnits l.tail) h).trans (hread b rest'))
  obtain ⟨hunits, hrest⟩ := Prod.mk.inj (Option.some.inj hsame)
  refine ⟨?_, hrest⟩
  rw [← Json.joinUnits_flatMap a, hunits, Json.joinUnits_flatMap]

theorem needsQuotes_of_mem {c : Char} (hc : c ∈ a) (h : c = ' ' ∨ c = '=') : needsQuotes a = true := by
  rw [needsQuotes, Bool.or_eq_true]
  rcases h with rfl | rfl
  · exact .inr (List.any_eq_true.mpr ⟨' ', hc, by decide⟩)
  · exact .inl (List.contains_iff_mem.mpr hc)

theorem exists_of_needsQuotes (h : needsQuotes a = true) (htidy : Text.Tidy a) : ∃ c ∈ a, c = ' ' ∨ c = '=' := by
  rw [needsQuotes, Bool.or_eq_true] at h
  rcases h with h | h
  · exact ⟨'=', List.contains_iff_mem.mp h, .inr rfl⟩
  · obtain ⟨c, hc, hblank⟩ := List.any_eq_true.mp h
    exact ⟨c, hc, .inl (htidy.spaced c hc hblank)⟩

/-- A text that is not dangling never passes for a text between quotes: what it quotes holds neither a space nor an
equals sign, and a text between quotes does. -/
theorem append_ne_literal (hne : a ≠ []) (ha : needsQuotes a = false) (hclosed : ¬Dangling a)
    (hb : needsQuotes b = true) (htidy : Text.Tidy b) : a ++ rest ≠ literal b ++ rest' := by
  intro h
  obtain ⟨c, cs, rfl⟩ := List.exists_cons_of_ne_nil hne
  obtain ⟨rfl, hcs⟩ : c = '"' ∧ cs ++ rest = b.flatMap Json.escapeChar ++ '"' :: rest' := by
    simpa [literal] using h
  rcases hclose : Json.closeQuote? cs with _ | ⟨inner, behind⟩
  · exact hclosed ⟨ha, rfl, by simp [hclose]⟩
  obtain ⟨rfl, hread⟩ := Json.closeQuote?_eq_some hclose
  -- both sides close at the same quote
  have hboth : some (inner, behind ++ rest) = some (b.flatMap Json.escapeChar, rest') := by
    rw [← hread, ← Json.closeQuote?_escaped, ← hcs, List.append_assoc, List.cons_append]
  obtain ⟨rfl, -⟩ := Prod.mk.inj (Option.some.inj hboth)
  obtain ⟨d, hd, hparts⟩ := exists_of_needsQuotes hb htidy
  have hshown : d ∈ b.flatMap Json.escapeChar := by
    refine List.mem_flatMap.mpr ⟨d, hd, ?_⟩
    rcases hparts with rfl | rfl <;> decide
  have hquotes : needsQuotes ('"' :: (b.flatMap Json.escapeChar ++ '"' :: behind)) = true :=
    needsQuotes_of_mem (by simp [hshown]) hparts
  rw [ha] at hquotes
  cases hquotes

/-- **Values can be told apart**: two tidy texts that are not dangling look different at the beginning of what stands
in a line, or they are the same and so is what stands behind them. -/
theorem render_append_inj {s t : String} (hs : Text.Tidy s.toList) (ht : Text.Tidy t.toList)
    (hs' : ¬Dangling s.toList) (ht' : ¬Dangling t.toList) (hrest : Text.Stops rest) (hrest' : Text.Stops rest')
    (h : (text s).render ++ rest = (text t).render ++ rest') : s = t ∧ rest = rest' := by
  rw [render_tidy hs, render_tidy ht] at h
  rw [← String.toList_inj]
  cases hsq : needsQuotes s.toList <;> cases htq : needsQuotes t.toList <;>
    simp only [hsq, htq, if_true, if_false, Bool.false_eq_true] at h
  · exact append_inj_of_unbroken (unbroken_of_needsQuotes hsq) (unbroken_of_needsQuotes htq) hrest hrest' h
  · exact absurd h (append_ne_literal hs.ne_nil hsq hs' htq ht)
  · exact absurd h.symm (append_ne_literal ht.ne_nil htq ht' hsq hs)
  · exact append_inj_of_literal h

end LogValue

namespace LogEvent

/-! ## Fields in a line -/

/-- A field with a text that can be told apart from what stands around it. -/
structure Readable (p : String × LogValue) : Prop where
  key : '=' ∉ p.1.toList
  value : ∃ s : String, p.2 = .text s ∧ Text.Tidy s.toList ∧ ¬LogValue.Dangling s.toList

/-- By induction on the fields: each begins at a space, its key ends at the first equals sign, and its value can be told
apart from the fields behind it. -/
theorem pairs_inj {ps qs : LogFields} (hps : ∀ p ∈ ps, Readable p) (hqs : ∀ q ∈ qs, Readable q)
    (h : (ps.flatMap fun p => ' ' :: pairText p) = qs.flatMap fun q => ' ' :: pairText q) : ps = qs := by
  induction ps generalizing qs with
  | nil =>
    cases qs with
    | nil => rfl
    | cons q qs => cases h
  | cons p ps ih =>
    cases qs with
    | nil => cases h
    | cons q qs =>
      obtain ⟨hp, hps'⟩ := List.forall_mem_cons.mp hps
      obtain ⟨hq, hqs'⟩ := List.forall_mem_cons.mp hqs
      obtain ⟨k, v⟩ := p
      obtain ⟨k', v'⟩ := q
      obtain ⟨s, rfl, hs, hs'⟩ := hp.value
      obtain ⟨t, rfl, ht, ht'⟩ := hq.value
      simp only [List.flatMap_cons, pairText, List.cons_append, List.append_assoc, List.cons.injEq, true_and] at h
      have hcut := congrArg (Text.cut? '=') h
      rw [Text.cut?_append hp.key, Text.cut?_append hq.key] at hcut
      obtain ⟨hkey, hbehind⟩ := Prod.mk.inj (Option.some.inj hcut)
      obtain ⟨rfl, hfields⟩ := LogValue.render_append_inj hs ht hs' ht' (pairs_stops ps) (pairs_stops qs) hbehind
      obtain rfl : k = k' := String.toList_inj.mp hkey
      rw [ih hps' hqs' hfields]

theorem sortFields_perm {fields fields' : LogFields} (hperm : fields.Perm fields')
    (hkeys : (fields.map Prod.fst).Nodup) : sortFields fields = sortFields fields' := by
  refine mergeSort_eq_of_perm (fun a b c => ?_) (fun a b => ?_) hperm fun a ha b hb hab hba => ?_
  · simpa using String.le_trans
  · simpa using String.le_total a.1 b.1
  · refine List.inj_on_of_nodup_map hkeys ha hb (String.le_antisymm ?_ ?_)
    · simpa using hab
    · simpa using hba

end LogEvent

/-! ## Events of texts -/

/-- An event whose fields are texts, and with its name they are tidy. -/
structure TextEvent where
  name : String
  fields : List (String × String)
  name_tidy : Text.Tidy name.toList := by decide
  keys_noEquals : ∀ p ∈ fields, '=' ∉ p.1.toList := by decide
  keys_nodup : (fields.map Prod.fst).Nodup := by decide
  values_tidy : ∀ p ∈ fields, Text.Tidy p.2.toList := by decide

namespace TextEvent

/-- The fields of an event as the log takes them. -/
def logFields (e : TextEvent) : LogFields :=
  e.fields.map fun p => (p.1, .text p.2)

def message (e : TextEvent) : String :=
  LogEvent.message e.name e.logFields

/-- An event without dangling texts. -/
def Closed (e : TextEvent) : Prop :=
  ¬LogValue.Dangling e.name.toList ∧ ∀ p ∈ e.fields, ¬LogValue.Dangling p.2.toList

instance (e : TextEvent) : Decidable e.Closed :=
  inferInstanceAs (Decidable (_ ∧ _))

variable {e e' : TextEvent}

theorem logFields_keys (e : TextEvent) : e.logFields.map Prod.fst = e.fields.map Prod.fst := by
  rw [logFields, List.map_map]
  rfl

theorem logFields_perm : e.logFields.Perm e'.logFields ↔ e.fields.Perm e'.fields := by
  refine List.map_perm_map_iff fun p q h => ?_
  obtain ⟨hkey, hvalue⟩ := Prod.mk.inj h
  exact Prod.ext hkey (LogValue.text.inj hvalue)

theorem Closed.readable (h : e.Closed) {p : String × LogValue} (hp : p ∈ LogEvent.sortFields e.logFields) :
    LogEvent.Readable p := by
  obtain ⟨q, hq, rfl⟩ := List.mem_map.mp (List.mem_mergeSort.mp hp)
  exact ⟨e.keys_noEquals q hq, q.2, rfl, e.values_tidy q hq, h.2 q hq⟩

/-- **Lines can be read back**: without dangling texts, two events have the same line exactly if they have the same name
and the same fields, in whatever order these are given. -/
theorem line_eq_iff (h : e.Closed) (h' : e'.Closed) :
    e.message = e'.message ↔ e.name = e'.name ∧ e.fields.Perm e'.fields := by
  constructor
  · intro heq
    have hline := congrArg String.toList heq
    rw [message, message, LogEvent.message_pairs, LogEvent.message_pairs] at hline
    simp only [LogEvent.pairText, List.append_assoc, List.cons_append] at hline
    have hvalue := List.cons.inj (List.append_cancel_left hline)
    obtain ⟨hname, hfields⟩ := LogValue.render_append_inj e.name_tidy e'.name_tidy h.1 h'.1
      (LogEvent.fieldsText_stops _) (LogEvent.fieldsText_stops _) hvalue.2
    have hsorted := LogEvent.pairs_inj (fun p => h.readable) (fun p => h'.readable) hfields
    have hperm := (List.mergeSort_perm e.logFields _).symm.trans
      ((List.Perm.of_eq hsorted).trans (List.mergeSort_perm e'.logFields _))
    exact ⟨hname, logFields_perm.mp hperm⟩
  · rintro ⟨hname, hperm⟩
    have hsorted := LogEvent.sortFields_perm (logFields_perm.mpr hperm) (by rw [logFields_keys]; exact e.keys_nodup)
    rw [message, message, LogEvent.message, LogEvent.message, hname, hsorted]

/-- A read with a branch that has to be quoted and an error text that quotes a word. -/
def lostRead : TextEvent where
  name := "github_read"
  fields := [("error", "\"main\""), ("branch", "a b=\"c\\")]

def lostReadAgain : TextEvent where
  name := "github_read"
  fields := [("branch", "a b=\"c\\"), ("error", "\"main\"")]

theorem line_eq_iff_lostRead :
    lostRead.Closed ∧ lostReadAgain.Closed ∧ lostRead.message = lostReadAgain.message := by
  have hclosed : lostRead.Closed := by decide
  have hclosed' : lostReadAgain.Closed := by decide
  exact ⟨hclosed, hclosed', (line_eq_iff hclosed hclosed').mpr ⟨rfl, List.Perm.swap _ _ _⟩⟩

theorem message_of_sorted (h : e.logFields.Pairwise fun p q => decide (p.1 ≤ q.1) = true) : e.message =
    String.ofList ([' '].intercalate ((("event", .text e.name) :: e.logFields).map LogEvent.pairText)) := by
  rw [message, LogEvent.message, LogEvent.sortFields, List.mergeSort_of_pairwise h]

/-- An event with one text that has to be quoted. -/
def quotedEvent : TextEvent where
  name := "github_read"
  fields := [("a", "x b=c")]

/-- An event with two texts that hold one quote each. -/
def quotesApart : TextEvent where
  name := "github_read"
  fields := [("a", "\"x"), ("b", "c\"")]

/-- Two events with different fields and the same line: the text that opens a quote is dangling. -/
theorem dangling_line_shared :
    quotedEvent.message = quotesApart.message ∧ ¬quotedEvent.fields.Perm quotesApart.fields ∧ ¬quotesApart.Closed := by
  refine ⟨?_, by decide, by decide⟩
  rw [message_of_sorted (by decide), message_of_sorted (by decide)]
  decide +kernel

end TextEvent

end RunSteward
