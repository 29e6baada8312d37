import Mathlib.Data.List.Induction
import Mathlib.Data.List.Nodup
import RunSteward.Log.DailyFile
import RunSteward.Proofs.Time.Readback

/-!
# One file a day

However the clock jumps between lines, the log ends up with one file for each day that the clock showed, and the file
holds the lines of its day in the order in which they came (`one_file_a_day`): no line is lost, none is written twice,
and none is in the file of another day. Where the directory cannot be opened, every line is handed over as lost once.

A line that is kept goes to the end of the file of its day, whichever file is open (`DailyFiles.files_emit`), and the
names of files tell the days apart (`Stamp.dayName_inj`). That a run keeps the files in this shape (`FiledByDay`) is an
induction over the lines from the first one on.
-/

namespace RunSteward

/-! ## Names of days -/

namespace Stamp

open Json (isAsciiDigit)

theorem padded_hyphen_inj {width n m : Nat} {a b : List Char}
    (h : padded width n ++ '-' :: a = padded width m ++ '-' :: b) : n = m ∧ a = b := by
  have hcut : ∀ (k : Nat) (rest : List Char),
      (padded width k ++ '-' :: rest).takeWhile isAsciiDigit = padded width k := by
    intro k rest
    rw [List.takeWhile_append_of_pos fun c hc => padded_digit hc, List.takeWhile_cons_of_neg (by decide),
      List.append_nil]
  have hnumber : padded width n = padded width m := by rw [← hcut n a, ← hcut m b, h]
  have hvalue : n = m := by rw [← digitsValue_padded width n, ← digitsValue_padded width m, hnumber]
  subst hvalue
  exact ⟨rfl, (List.cons.inj (List.append_cancel_left h)).2⟩

theorem dayName_inj {s t : Stamp} (h : s.dayName = t.dayName) : s.date = t.date := by
  have hchars := String.ofList_injective h
  simp only [List.append_assoc, List.cons_append] at hchars
  obtain ⟨hyear, hrest⟩ := padded_hyphen_inj hchars
  obtain ⟨hmonth, hday⟩ := padded_hyphen_inj hrest
  have hday : s.date.day = t.date.day := by
    rw [← digitsValue_padded 2 s.date.day, ← digitsValue_padded 2 t.date.day, hday]
  cases hs : s.date
  cases ht : t.date
  simp_all

end Stamp

/-! ## Files -/

namespace DailyFiles

variable {α : Type} {name text : String} {nameOf textOf : α → String}

theorem append_append (name a b : String) (files : List (String × String)) :
    append name b (append name a files) = append name (a ++ b) files := by
  induction files with
  | nil => simp [append]
  | cons f fs ih =>
    by_cases h : f.1 = name
    · simp [append, h, String.append_assoc]
    · simp [append, h, ih]

theorem files_emit (d : DailyFiles) (day line : String) :
    d.emit day line = ⟨append (fileName day) (line ++ "\n") d.files, some day⟩ := by
  by_cases h : d.openDay = some day
  · simp [emit, write, h]
  · simp [emit, write, h, switchTo, append_append]

theorem append_of_mem [DecidableEq α] {keys : List α} {key : α} (hname : Function.Injective nameOf)
    (hnodup : keys.Nodup) (hmem : key ∈ keys) (text : String) :
    append (nameOf key) text (keys.map fun k => (nameOf k, textOf k)) =
      keys.map fun k => (nameOf k, if k = key then textOf k ++ text else textOf k) := by
  induction keys with
  | nil => cases hmem
  | cons k ks ih =>
    obtain ⟨hk, hks⟩ := List.nodup_cons.mp hnodup
    by_cases hkey : k = key
    · subst hkey
      have hothers : ∀ j ∈ ks, ¬j = k := fun j hj hjk => hk (hjk ▸ hj)
      simpa [append] using fun j hj => by simp [hothers j hj]
    · have hne : ¬nameOf k = nameOf key := fun h => hkey (hname h)
      have hrest : key ∈ ks := (List.mem_cons.mp hmem).resolve_left (Ne.symm hkey)
      simp [append, hne, hkey, ih hks hrest]

theorem append_of_not_mem {keys : List α} {key : α} (hname : Function.Injective nameOf) (hnew : key ∉ keys)
    (text : String) :
    append (nameOf key) text (keys.map fun k => (nameOf k, textOf k)) =
      (keys.map fun k => (nameOf k, textOf k)) ++ [(nameOf key, text)] := by
  induction keys with
  | nil => rfl
  | cons k ks ih =>
    obtain ⟨hk, hks⟩ := not_or.mp (mt List.mem_cons.mpr hnew)
    have hne : ¬nameOf k = nameOf key := fun h => hk (hname h).symm
    simp [append, hne, ih hks]

end DailyFiles

/-! ## Runs -/

def dayFile (day : Date) : String :=
  DailyFiles.fileName (Stamp.dayName ⟨day, .midnight, some .utc⟩)

theorem dayFile_injective : Function.Injective dayFile := by
  intro a b h
  have hname : Stamp.dayName ⟨a, .midnight, some .utc⟩ = Stamp.dayName ⟨b, .midnight, some .utc⟩ := by
    have hchars := congrArg String.toList h
    simp only [dayFile, DailyFiles.fileName, String.toList_append] at hchars
    exact String.toList_inj.mp (List.append_cancel_right hchars)
  exact Stamp.dayName_inj hname

/-- The lines that came on a day. -/
def ofDay (writes : List (Stamp × String)) (day : Date) : List (Stamp × String) :=
  writes.filter fun w => w.1.date = day

/-- The text of lines, each with its line feed. -/
def pageOf (writes : List (Stamp × String)) : String :=
  String.join (writes.map fun w => w.2 ++ "\n")

theorem perm_flatMap_ofDay {days : List Date} (hnodup : days.Nodup) (writes : List (Stamp × String))
    (hall : ∀ w ∈ writes, w.1.date ∈ days) : (days.flatMap (ofDay writes)).Perm writes := by
  induction days generalizing writes with
  | nil =>
    have hnone : writes = [] := List.eq_nil_iff_forall_not_mem.mpr fun w hw => by cases hall w hw
    rw [hnone, List.flatMap_nil]
  | cons day days ih =>
    obtain ⟨hday, hdays⟩ := List.nodup_cons.mp hnodup
    let others := writes.filter fun w => !decide (w.1.date = day)
    have hrest : days.flatMap (ofDay writes) = days.flatMap (ofDay others) := by
      refine congrArg List.flatten (List.map_congr_left fun d hd => ?_)
      have hne : d ≠ day := fun h => hday (h ▸ hd)
      rw [ofDay, ofDay, List.filter_filter]
      refine List.filter_congr fun w _ => ?_
      by_cases hw : w.1.date = d
      · simp [hw, hne]
      · simp [hw]
    have hothers : ∀ w ∈ others, w.1.date ∈ days := by
      intro w hw
      obtain ⟨hw, hother⟩ := List.mem_filter.mp hw
      exact (List.mem_cons.mp (hall w hw)).resolve_left (by simpa using hother)
    rw [List.flatMap_cons, hrest]
    exact ((ih hdays others hothers).append_left _).trans (List.filter_append_perm _ writes)

/-- Files that hold, day by day, the lines that came on the day. -/
structure FiledByDay (writes : List (Stamp × String)) (files : List (String × String)) (days : List Date) : Prop where
  nodup : days.Nodup
  occurs : ∀ day, day ∈ days ↔ ∃ w ∈ writes, w.1.date = day
  files_eq : files = days.map fun day => (dayFile day, pageOf (ofDay writes day))

theorem pageOf_ofDay_concat (writes : List (Stamp × String)) (now : Stamp) (line : String) (day : Date) :
    pageOf (ofDay (writes ++ [(now, line)]) day) =
      if day = now.date then pageOf (ofDay writes day) ++ (line ++ "\n") else pageOf (ofDay writes day) := by
  by_cases h : day = now.date
  · simp [ofDay, pageOf, List.filter_append, h]
  · simp [ofDay, pageOf, List.filter_append, h, Ne.symm h]

theorem FiledByDay.emit {writes : List (Stamp × String)} {files : List (String × String)} {days : List Date}
    (h : FiledByDay writes files days) (now : Stamp) (line : String) :
    ∃ days', FiledByDay (writes ++ [(now, line)])
      (DailyFiles.append (DailyFiles.fileName now.dayName) (line ++ "\n") files) days' := by
  have hname : DailyFiles.fileName now.dayName = dayFile now.date := rfl
  have hoccurs : ∀ day, (∃ w ∈ writes ++ [(now, line)], w.1.date = day) ↔ day ∈ days ∨ now.date = day := by
    intro day
    rw [h.occurs]
    simp only [List.mem_append, List.mem_singleton, or_and_right, exists_or, exists_eq_left]
  -- the day has its file already, or it gets one behind the others
  by_cases hmem : now.date ∈ days
  · refine ⟨days, h.nodup, fun day => ?_, ?_⟩
    · rw [hoccurs]
      exact ⟨.inl, fun hday => hday.elim id fun hnow => hnow ▸ hmem⟩
    · rw [hname, h.files_eq, DailyFiles.append_of_mem dayFile_injective h.nodup hmem]
      simp only [pageOf_ofDay_concat]
  · have hothers : ∀ day ∈ days, ¬day = now.date := fun day hday hnow => hmem (hnow ▸ hday)
    have hempty : ofDay writes now.date = [] :=
      List.filter_eq_nil_iff.mpr fun w hw => by simpa using fun hday => hmem ((h.occurs _).mpr ⟨w, hw, hday⟩)
    refine ⟨days ++ [now.date], List.nodup_append.mpr ⟨h.nodup, List.nodup_singleton now.date, ?_⟩, fun day => ?_, ?_⟩
    · intro a ha b hb
      rw [List.mem_singleton.mp hb]
      exact hothers a ha
    · rw [hoccurs, List.mem_append, List.mem_singleton, eq_comm]
    · rw [hname, h.files_eq, DailyFiles.append_of_not_mem dayFile_injective hmem, List.map_append, List.map_singleton,
        pageOf_ofDay_concat, if_pos rfl, hempty]
      refine congrArg₂ _ (List.map_congr_left fun day hday => ?_) ?_
      · rw [pageOf_ofDay_concat, if_neg (hothers day hday)]
      · simp [pageOf]

namespace DailyLog

/-- A line is either written to the file of its day or handed over as lost; the latter only where the directory cannot
be opened. -/
theorem emit_kept_or_lost (l : DailyLog) (now : Stamp) (line : String) :
    l.emit now line = { l with kept := l.kept.emit now.dayName line } ∨
      l.blocked = true ∧ l.emit now line = { l with kept := l.kept.close, lost := l.lost ++ [line] } := by
  by_cases h : l.blocked = true ∧ l.kept.openDay ≠ some now.dayName
  · exact .inr ⟨h.1, if_pos h⟩
  · exact .inl (if_neg h)

theorem foldl_emit_open (writes : List (Stamp × String)) :
    ∃ days files openDay, FiledByDay writes files days ∧
      writes.foldl (fun (l : DailyLog) w => l.emit w.1 w.2) { blocked := false } = ⟨false, ⟨files, openDay⟩, []⟩ := by
  induction writes using List.reverseRecOn with
  | nil => exact ⟨[], [], none, ⟨List.nodup_nil, by simp, rfl⟩, rfl⟩
  | append_singleton writes w ih =>
    obtain ⟨days, files, openDay, hfiled, hrun⟩ := ih
    obtain ⟨days', hfiled'⟩ := hfiled.emit w.1 w.2
    refine ⟨days', _, some w.1.dayName, hfiled', ?_⟩
    rw [List.foldl_append, hrun, List.foldl_cons, List.foldl_nil]
    rcases emit_kept_or_lost ⟨false, ⟨files, openDay⟩, []⟩ w.1 w.2 with hkept | ⟨hblocked, -⟩
    · rw [hkept, DailyFiles.files_emit]
    · cases hblocked

theorem foldl_emit_blocked (writes : List (Stamp × String)) :
    writes.foldl (fun (l : DailyLog) w => l.emit w.1 w.2) { blocked := true } = ⟨true, {}, writes.map Prod.snd⟩ := by
  induction writes using List.reverseRecOn with
  | nil => rfl
  | append_singleton writes w ih =>
    rw [List.foldl_append, ih, List.map_append]
    rfl

/-- **There is one file for each day that occurs.** It is named after the day and holds the lines that came on that day,
in order; every line is in one file, once. Where the directory cannot be opened there are no files, and every line is
handed over once. -/
theorem one_file_a_day (writes : List (Stamp × String)) :
    (∃ days : List Date,
      (∀ day, day ∈ days ↔ ∃ w ∈ writes, w.1.date = day) ∧ days.Nodup ∧ (days.map dayFile).Nodup ∧
      emitAll { blocked := false } writes =
        { blocked := false, kept := { files := days.map fun day => (dayFile day, pageOf (ofDay writes day)) } } ∧
      (days.flatMap (ofDay writes)).Perm writes) ∧
    emitAll { blocked := true } writes = { blocked := true, lost := writes.map Prod.snd } := by
  constructor
  · obtain ⟨days, files, openDay, hfiled, hrun⟩ := foldl_emit_open writes
    have hall : ∀ w ∈ writes, w.1.date ∈ days := fun w hw => (hfiled.occurs _).mpr ⟨w, hw, rfl⟩
    refine ⟨days, hfiled.occurs, hfiled.nodup, hfiled.nodup.map dayFile_injective, ?_,
      perm_flatMap_ofDay hfiled.nodup writes hall⟩
    rw [emitAll, hrun, hfiled.files_eq]
    rfl
  · rw [emitAll, foldl_emit_blocked]
    rfl

end DailyLog

end RunSteward
