import RunSteward.Gateway.Records
import RunSteward.Proofs.Text.Blank
import RunSteward.Proofs.Time.Readback

/-!
# Runs read back

What a payload says of workflow runs is read as it was meant (`readList_entries`): every field of a run is given back,
its times included, and whatever else a page holds is passed over. The one thing that is lost is an offset of less than
a
second, which is taken for that of UTC (`asRead_eq_iff`). Every time that is read is aware, in whichever way it was
written (`time_isAware`).
-/

namespace RunSteward

open Json (get)

/-! ## Times as they are read -/

namespace Stamp

/-- A stamp as it is read back from its text: a naive one is taken to be in UTC. -/
def asRead (s : Stamp) : Stamp :=
  { s with offset := some ((s.offset.map Offset.asRead).getD .utc) }

/-- A stamp that has an offset, which is that of UTC or at least a second. -/
def IsKept (s : Stamp) : Prop :=
  ∃ o, s.offset = some o ∧ (o = .utc ∨ 1000000 ≤ o.micros.natAbs)

def IsAware (s : Stamp) : Prop :=
  s.offset.isSome = true

variable {s : Stamp}

/-- A stamp is read back as it is exactly if its offset is kept. -/
theorem asRead_eq_iff : s.asRead = s ↔ s.IsKept := by
  obtain ⟨date, time, offset⟩ := s
  cases offset with
  | none => simp [asRead, IsKept]
  | some o =>
    have hread : o.asRead = o ↔ o = .utc ∨ 1000000 ≤ o.micros.natAbs := by
      unfold Offset.asRead
      by_cases hbrief : o.micros.natAbs < 1000000
      · rw [if_pos hbrief]
        constructor
        · intro hutc
          exact .inl hutc.symm
        · rintro (hutc | hlong)
          · exact hutc.symm
          · omega
      · rw [if_neg hbrief]
        exact ⟨fun _ => .inr (by omega), fun _ => rfl⟩
    simp [asRead, IsKept, hread]

theorem isBlank_of_isStampChar {c : Char} (h : isStampChar c = true) : Text.isBlank c = false := by
  rcases Bool.or_eq_true_iff.mp h with hdigit | hmark
  · have hcode : c.toNat = c.val.toNat := rfl
    simp only [Json.isAsciiDigit, Bool.and_eq_true, decide_eq_true_eq, Char.le_def, UInt32.le_iff_toNat_le] at hdigit
    obtain ⟨hlow, hhigh⟩ := hdigit
    change 48 ≤ c.val.toNat at hlow
    change c.val.toNat ≤ 57 at hhigh
    exact Text.isBlank_of_visible ⟨by omega, by omega⟩
  · have hmarks : Text.Unbroken ['-', 'T', ':', '.', '+'] := by decide
    exact hmarks c (List.contains_iff_mem.mp hmark)

theorem trim_text (s : Stamp) : Text.trim s.text = s.text := by
  have hunbroken : Text.Unbroken s.text.toList := fun c hc => isBlank_of_isStampChar (isStampChar_of_mem_text hc)
  rw [Text.trim, hunbroken.trimChars, String.ofList_toList]

theorem text_isEmpty (s : Stamp) : s.text.isEmpty = false := by
  rw [Bool.eq_false_iff]
  intro hempty
  have htext := s.text_eq
  rw [String.isEmpty_iff.mp hempty] at htext
  simp at htext

theorem spellZulu_text (s : Stamp) : Payload.spellZulu s.text = s.text := by
  unfold Payload.spellZulu
  split
  · rename_i before hlast
    have hmem : 'Z' ∈ s.text.toList := List.mem_reverse.mp (by simp [hlast])
    exact absurd (isStampChar_of_mem_text hmem) (by decide)
  · rfl

end Stamp

namespace Payload

variable {field : String}

theorem toOption_time (field s : String) : (time field (.string s)).toOption =
    if (Text.trim s).isEmpty then none else (Stamp.read? (spellZulu (Text.trim s))).map Stamp.aware := by
  rw [time]
  split
  · rfl
  · cases Stamp.read? (spellZulu (Text.trim s)) <;> rfl

theorem time_text (field : String) (s : Stamp) : time field (.string s.text) = .ok s.asRead := by
  rw [time, s.trim_text, if_neg (by simp [s.text_isEmpty]), s.spellZulu_text, Stamp.read?_text]
  rfl

theorem time_isAware {v : Json} {t : Stamp} (h : time field v = .ok t) : t.IsAware := by
  unfold time at h
  split at h
  · dsimp only at h
    split at h
    · cases h
    · split at h
      · obtain rfl := Except.ok.inj h
        rfl
      · cases h
  · cases h

theorem time?_isAware {v : Json} {t : Stamp} (h : time? field v = .ok (some t)) : t.IsAware := by
  unfold time? at h
  split at h
  · rcases htime : time field v with e | t' <;> rw [htime] at h
    · cases h
    · obtain rfl := Option.some.inj (Except.ok.inj h)
      exact time_isAware htime
  · cases h

theorem trim_append {mark : String} (h : Text.Trimmed mark.toList) (w : String) :
    Text.trim (w ++ mark) = String.ofList (Text.trimLeft w.toList ++ mark.toList) := by
  have hleft : Text.trimLeft (w ++ mark).toList = Text.trimLeft w.toList ++ mark.toList := by
    have hmark : mark.toList.dropWhile Text.isBlank = mark.toList := by
      obtain ⟨c, cs, hcs⟩ := List.exists_cons_of_ne_nil h.ne_nil
      rw [hcs]
      exact List.dropWhile_cons_of_neg (by simp [h.head c (by simp [hcs])])
    rw [String.toList_append, Text.trimLeft, List.dropWhile_append, hmark]
    split
    · rename_i hblank
      rw [Text.trimLeft, List.isEmpty_iff.mp hblank, List.nil_append]
    · rfl
  have hright : Text.trimRight (Text.trimLeft w.toList ++ mark.toList) = Text.trimLeft w.toList ++ mark.toList :=
    List.rdropWhile_eq_self_iff.mpr fun hne => by
      rw [List.getLast_append_of_ne_nil hne h.ne_nil]
      simp [h.last _ (List.getLast?_eq_some_getLast h.ne_nil)]
  rw [Text.trim, Text.trimChars, hleft, hright]

/-- The letter Z says the same as an offset of zero, whatever it stands behind. -/
theorem time_zulu (field w : String) :
    (time field (.string (w ++ "Z"))).toOption = (time field (.string (w ++ "+00:00"))).toOption := by
  have hzulu : Text.trim (w ++ "Z") = String.ofList (Text.trimLeft w.toList ++ ['Z']) :=
    trim_append (Text.Unbroken.trimmed (by decide) (by decide)) w
  have hzero : Text.trim (w ++ "+00:00") = String.ofList (Text.trimLeft w.toList ++ ['+', '0', '0', ':', '0', '0']) :=
    trim_append (Text.Unbroken.trimmed (by decide) (by decide)) w
  generalize Text.trimLeft w.toList = before at hzulu hzero
  have hspelled : spellZulu (String.ofList (before ++ ['Z'])) =
      spellZulu (String.ofList (before ++ ['+', '0', '0', ':', '0', '0'])) := by
    simp [spellZulu]
  have hgiven : ∀ c cs, (String.ofList (before ++ c :: cs)).isEmpty = false := by
    intro c cs
    rw [Bool.eq_false_iff]
    intro hempty
    have hnil := congrArg String.toList (String.isEmpty_iff.mp hempty)
    simp at hnil
  rw [toOption_time, toOption_time, hzulu, hzero, hspelled, hgiven, hgiven]

end Payload

theorem Comment.read_isAware {m : Members} {c : Comment} (h : Comment.read m = .ok c) :
    c.createdAt.IsAware ∧ c.updatedAt.IsAware := by
  unfold Comment.read at h
  rcases hcreated : Payload.time "created_at" (get m "created_at") with e | createdAt <;> rw [hcreated] at h
  · cases h
  rcases hid : Payload.int "id" (get m "id") with e | id <;> rw [hid] at h
  · cases h
  rcases hupdated : Payload.time? "updated_at" (get m "updated_at") with e | updatedAt <;> rw [hupdated] at h
  · cases h
  obtain rfl := Except.ok.inj h
  refine ⟨Payload.time_isAware hcreated, ?_⟩
  cases updatedAt with
  | none => exact Payload.time_isAware hcreated
  | some t => exact Payload.time?_isAware hupdated

/-! ## Runs -/

namespace WorkflowRun

variable {r : WorkflowRun} {m : Members}

/-- A text without blanks around it and in lower case. -/
def IsPlain (s : String) : Prop :=
  Text.trim s = s ∧ Text.lower s = s

instance (s : String) : Decidable (IsPlain s) :=
  inferInstanceAs (Decidable (_ ∧ _))

/-- A run whose event, status and conclusion are as they are compared. -/
structure Tidy (r : WorkflowRun) : Prop where
  event : IsPlain r.event
  status : IsPlain r.status
  conclusion : ∀ c, r.conclusion = some c → IsPlain c ∧ c ≠ ""

/-- Members of an object that show a run, in any order and among any other ones. What the run does not have is null or
absent. -/
structure ShownBy (r : WorkflowRun) (m : Members) : Prop where
  id : get m "id" = .number (.whole r.id)
  name : get m "name" = .string r.name
  headBranch : get m "head_branch" = .string r.headBranch
  runNumber : get m "run_number" = .number (.whole r.runNumber)
  event : get m "event" = .string r.event
  status : get m "status" = .string r.status
  conclusion : get m "conclusion" = (r.conclusion.map Json.string).getD .null
  updatedAt : get m "updated_at" = .string r.updatedAt.text
  headSha : get m "head_sha" = .string r.headSha
  createdAt : get m "created_at" = (r.createdAt.map fun t => Json.string t.text).getD .null
  htmlUrl : get m "html_url" = .string r.htmlUrl

/-- The members that the server writes for a run. -/
def members (r : WorkflowRun) : Members := [
  ("id", .number (.whole r.id)), ("name", .string r.name), ("head_branch", .string r.headBranch),
  ("run_number", .number (.whole r.runNumber)), ("event", .string r.event), ("status", .string r.status),
  ("conclusion", (r.conclusion.map Json.string).getD .null), ("updated_at", .string r.updatedAt.text),
  ("head_sha", .string r.headSha), ("created_at", (r.createdAt.map fun t => Json.string t.text).getD .null),
  ("html_url", .string r.htmlUrl)]

theorem shownBy_members (r : WorkflowRun) : r.ShownBy r.members :=
  ⟨rfl, rfl, rfl, rfl, rfl, rfl, rfl, rfl, rfl, rfl, rfl⟩

/-- A run as it is read back. -/
def asRead (r : WorkflowRun) : WorkflowRun :=
  { r with updatedAt := r.updatedAt.asRead, createdAt := r.createdAt.map Stamp.asRead }

/-- A run all of whose times are kept. -/
def IsKept (r : WorkflowRun) : Prop :=
  r.updatedAt.IsKept ∧ ∀ t, r.createdAt = some t → t.IsKept

theorem asRead_eq_iff : r.asRead = r ↔ r.IsKept := by
  have htimes : r.asRead = r ↔ r.updatedAt.asRead = r.updatedAt ∧ r.createdAt.map Stamp.asRead = r.createdAt := by
    obtain ⟨id, name, headBranch, runNumber, event, status, conclusion, updatedAt, headSha, createdAt, htmlUrl⟩ := r
    simp [asRead]
  rw [htimes, Stamp.asRead_eq_iff, IsKept]
  refine and_congr_right fun _ => ?_
  cases r.createdAt with
  | none => simp
  | some t => simp [Stamp.asRead_eq_iff]

theorem lowered?_plain {s : String} (h : IsPlain s) (hne : s ≠ "") : Payload.lowered? (.string s) = some s := by
  have hlowered : Text.lower (Text.trim s) = s := by rw [h.1, h.2]
  simp only [Payload.lowered?, Payload.text?, Json.plainText, Option.bind_some, hlowered]
  rw [if_neg (mt String.isEmpty_iff.mp hne)]

theorem lowered_plain {s : String} (h : IsPlain s) : Payload.lowered (.string s) = s := by
  by_cases hne : s = ""
  · rw [hne]
    decide
  · rw [Payload.lowered, lowered?_plain h hne]
    rfl

theorem lowered?_conclusion {c : Option String} (h : ∀ s, c = some s → IsPlain s ∧ s ≠ "") :
    Payload.lowered? ((c.map Json.string).getD .null) = c := by
  cases c with
  | none => rfl
  | some s => exact lowered?_plain (h s rfl).1 (h s rfl).2

theorem time?_text (field : String) (t : Option Stamp) :
    Payload.time? field ((t.map fun t => Json.string t.text).getD .null) = .ok (t.map Stamp.asRead) := by
  cases t with
  | none => rfl
  | some t =>
    have hgiven : Payload.isGiven (.string t.text) = true := by simp [Payload.isGiven, t.text_isEmpty]
    change Payload.time? field (.string t.text) = _
    rw [Payload.time?, if_pos hgiven, Payload.time_text]
    rfl

theorem read_of_shownBy (htidy : r.Tidy) (hshown : r.ShownBy m) : read m = .ok r.asRead := by
  unfold read
  rw [hshown.id, hshown.runNumber, hshown.updatedAt, hshown.createdAt, hshown.name, hshown.headBranch, hshown.event,
    hshown.status, hshown.conclusion, hshown.headSha, hshown.htmlUrl, Payload.time_text, time?_text,
    lowered_plain htidy.event, lowered_plain htidy.status, lowered?_conclusion htidy.conclusion]
  rfl

theorem read_isAware (h : read m = .ok r) : r.updatedAt.IsAware ∧ ∀ t, r.createdAt = some t → t.IsAware := by
  unfold read at h
  rcases hid : Payload.int "id" (get m "id") with e | id <;> rw [hid] at h
  · cases h
  rcases hnumber : Payload.int "run_number" (get m "run_number") with e | runNumber <;> rw [hnumber] at h
  · cases h
  rcases hupdated : Payload.time "updated_at" (get m "updated_at") with e | updatedAt <;> rw [hupdated] at h
  · cases h
  rcases hcreated : Payload.time? "created_at" (get m "created_at") with e | createdAt <;> rw [hcreated] at h
  · cases h
  obtain rfl := Except.ok.inj h
  refine ⟨Payload.time_isAware hupdated, fun t ht => ?_⟩
  obtain rfl : createdAt = some t := ht
  exact Payload.time?_isAware hcreated

/-! ## Pages -/

/-- What stands in a page of runs: an object that shows a run, or something that is no object. -/
inductive Entry where
  | run (r : WorkflowRun) (m : Members) (htidy : r.Tidy) (hshown : r.ShownBy m)
  | other (v : Json) (hother : v.object? = none)

namespace Entry

def json : Entry → Json
  | run _ m _ _ => .object m
  | other v _ => v

def run? : Entry → Option WorkflowRun
  | run r _ _ _ => some r
  | other _ _ => none

end Entry

/-- By induction on the entries, of which each shows a run or is passed over. -/
theorem mapM_entries (entries : List Entry) : ((entries.map Entry.json).filterMap Json.object?).mapM read =
    .ok ((entries.filterMap Entry.run?).map asRead) := by
  induction entries with
  | nil => rfl
  | cons entry entries ih =>
    cases entry with
    | run r m htidy hshown =>
      have hobject : Json.object? (Entry.json (.run r m htidy hshown)) = some m := rfl
      have hrun : Entry.run? (.run r m htidy hshown) = some r := rfl
      rw [List.map_cons, List.filterMap_cons_some hobject, List.mapM_cons, read_of_shownBy htidy hshown, ih,
        List.filterMap_cons_some hrun, List.map_cons]
      rfl
    | other v hother =>
      have hobject : Json.object? (Entry.json (.other v hother)) = none := hother
      have hrun : Entry.run? (.other v hother) = none := rfl
      rw [List.map_cons, List.filterMap_cons_none hobject, ih, List.filterMap_cons_none hrun]

theorem readList_entries {entries : List Entry} (h : get m "workflow_runs" = .array (entries.map Entry.json)) :
    readList (.object m) = .ok ((entries.filterMap Entry.run?).map asRead) := by
  change Payload.list "workflow runs" read (get m "workflow_runs") = _
  rw [h]
  exact mapM_entries entries

theorem map_asRead_eq_iff {runs : List WorkflowRun} : runs.map asRead = runs ↔ ∀ r ∈ runs, r.IsKept := by
  induction runs with
  | nil => simp
  | cons r runs ih => rw [List.map_cons, List.cons_eq_cons, ih, asRead_eq_iff, List.forall_mem_cons]

/-- **Times and runs are read back** from what is written for them, and exactly as they were if their offsets are kept.
A
time without an offset is taken to be in UTC, the letter Z stands for an offset of zero, and no time that is read is
naive. -/
theorem payload_readback (field : String) :
    (∀ s : Stamp, Payload.time field (.string s.text) = .ok s.asRead ∧ (s.asRead = s ↔ s.IsKept) ∧
      (s.offset = none → s.asRead = { s with offset := some .utc })) ∧
    (∀ w : String, (Payload.time field (.string (w ++ "Z"))).toOption =
      (Payload.time field (.string (w ++ "+00:00"))).toOption) ∧
    (∀ v t, Payload.time field v = .ok t → t.IsAware) ∧
    (∀ m r, read m = .ok r → r.updatedAt.IsAware ∧ ∀ t, r.createdAt = some t → t.IsAware) ∧
    (∀ m c, Comment.read m = .ok c → c.createdAt.IsAware ∧ c.updatedAt.IsAware) ∧
    (∀ (r : WorkflowRun) m, r.Tidy → r.ShownBy m → read m = .ok r.asRead ∧ (r.asRead = r ↔ r.IsKept)) ∧
    ∀ m (entries : List Entry), get m "workflow_runs" = .array (entries.map Entry.json) →
      readList (.object m) = .ok ((entries.filterMap Entry.run?).map asRead) ∧
        ((entries.filterMap Entry.run?).map asRead = entries.filterMap Entry.run? ↔
          ∀ r ∈ entries.filterMap Entry.run?, r.IsKept) := by
  refine ⟨fun s => ⟨Payload.time_text field s, Stamp.asRead_eq_iff, fun hnaive => ?_⟩, Payload.time_zulu field,
    fun v t => Payload.time_isAware, fun m r => read_isAware, fun m c => Comment.read_isAware,
    fun r m htidy hshown => ⟨read_of_shownBy htidy hshown, asRead_eq_iff⟩,
    fun m entries h => ⟨readList_entries h, map_asRead_eq_iff⟩⟩
  rw [Stamp.asRead, hnaive]
  rfl

/-- A run that is not finished, at a place five and a half hours ahead of UTC. -/
def nightly : WorkflowRun where
  id := 7
  name := "Nightly"
  headBranch := "main"
  runNumber := 3
  event := "schedule"
  status := "in_progress"
  conclusion := none
  updatedAt :=
    { date := ⟨2024, 6, 1, by decide, by decide, by decide⟩
      time := { TimeOfDay.midnight with hour := 4, hour_lt := by decide, micro := 125000, micro_lt := by decide }
      offset := Offset.of? 19800000000 }
  headSha := "abc"
  createdAt := none
  htmlUrl := ""

theorem tidy_nightly : nightly.Tidy where
  event := by decide +kernel
  status := by decide +kernel
  conclusion _ h := nomatch h

theorem payload_readback_nightly :
    readList (.object [("workflow_runs", .array [.string "junk", .object nightly.members, .null])]) = .ok [nightly] := by
  have hkept : nightly.IsKept := ⟨⟨_, rfl, .inr (by decide)⟩, fun t ht => nomatch ht⟩
  obtain ⟨-, -, -, -, -, -, hpages⟩ := payload_readback "updated_at"
  obtain ⟨hread, hsame⟩ := hpages [("workflow_runs", .array [.string "junk", .object nightly.members, .null])]
    [.other (.string "junk") rfl, .run nightly _ tidy_nightly (shownBy_members nightly), .other .null rfl] rfl
  rw [hread, hsame.mpr (by simpa [Entry.run?] using hkept)]
  rfl

end WorkflowRun

/-! ### An offset that is lost -/

namespace Stamp

/-- Noon of a day, at a place that is ahead of UTC by a microsecond. -/
def briefly : Stamp where
  date := ⟨2024, 6, 1, by decide, by decide, by decide⟩
  time := { TimeOfDay.midnight with hour := 12, hour_lt := by decide }
  offset := Offset.of? 1

/-- Its text says the offset, and yet it is read back as if it were in UTC. -/
theorem brief_offset_lost : briefly.text = "2024-06-01T12:00:00+00:00:00.000001" ∧
    (Payload.time "updated_at" (.string briefly.text)).toOption = some { briefly with offset := some .utc } ∧
    (Payload.time "updated_at" (.string briefly.text)).toOption ≠ some briefly := by
  decide +kernel

end Stamp

end RunSteward
