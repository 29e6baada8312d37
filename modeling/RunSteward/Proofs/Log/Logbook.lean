import RunSteward.Log.Logbook
import RunSteward.Proofs.Log.EventLine

/-!
# The last setup of the log

What the log does with a record is decided by the last call that set it up and was not refused (`last_setup_decides`):
the handlers and the level are those of the call, a silent log takes nothing, and otherwise each record that is due goes
once to the console and, if there is a state directory, once to the files below it, and nowhere else. A call that is
refused leaves the log as it was (`step_refused`), and a call that is accepted leaves no file open that nothing will
close (`Tidy`).

A call and a record are each said once as a whole: what a call makes of any log (`configure_accepted`), and what a
record does to a log that is set up (`Configured.record_eq`). The rest is an induction over the steps behind the call.
-/

namespace RunSteward

/-! ## What is due -/

/-- The message of an event that tells of a change, whatever stands behind the name of the event. -/
def NamesMutation (message : String) : Prop :=
  ∃ event ∈ mutationEvents, ∃ rest, Text.Stops rest ∧ message.toList = "event=".toList ++ event.toList ++ rest

/-- A record that is due to be written at a verbosity: nothing in silence, everything from information on at high
verbosity, and of that only warnings and changes at low verbosity. -/
def IsDue (v : Option Verbosity) (r : LogRecord) : Prop :=
  LogSetup.covers r.logger = true ∧ LogLevel.info.rank ≤ r.level.rank ∧
    match v with
    | none => False
    | some .high => True
    | some .low => LogLevel.warning.rank ≤ r.level.rank ∨ NamesMutation r.message

theorem isName_of_mutation {event : String} (h : event ∈ mutationEvents) : LogEvent.IsName event := by
  have hnames : ∀ name ∈ mutationEvents, LogEvent.IsName name := by decide +kernel
  exact hnames event h

theorem LogEvent.toList_of_name? {message event : String} (h : LogEvent.name? message = some event) :
    ∃ rest, Text.Stops rest ∧ message.toList = "event=".toList ++ event.toList ++ rest := by
  rw [name?] at h
  split at h
  · rename_i key name hcut
    split at h
    · rename_i hkey
      obtain rfl := Option.some.inj h
      refine ⟨message.toList.dropWhile (· != ' '), fun c hc => ?_, ?_⟩
      · have hfirst := List.head?_dropWhile_not (· != ' ') message.toList
        rw [hc] at hfirst
        simpa using hfirst
      · have hhead := Text.cut?_eq_some hcut
        rw [hkey.1] at hhead
        conv_lhs => rw [← List.takeWhile_append_dropWhile (p := (· != ' ')) (l := message.toList), hhead]
        simp
    · cases h
  · cases h

theorem namesMutation_iff (message : String) :
    NamesMutation message ↔ ∃ event ∈ mutationEvents, LogEvent.name? message = some event := by
  constructor
  · rintro ⟨event, hevent, rest, hrest, hmessage⟩
    exact ⟨event, hevent, LogEvent.name?_of_first (isName_of_mutation hevent) hrest hmessage⟩
  · rintro ⟨event, hevent, hname⟩
    obtain ⟨rest, hrest, hmessage⟩ := LogEvent.toList_of_name? hname
    exact ⟨event, hevent, rest, hrest, hmessage⟩

theorem passesLow_iff (r : LogRecord) :
    LogSetup.passesLow r = true ↔ LogLevel.warning.rank ≤ r.level.rank ∨ NamesMutation r.message := by
  rw [namesMutation_iff, LogSetup.passesLow, Bool.or_eq_true, decide_eq_true_iff]
  cases LogEvent.name? r.message <;> simp

theorem isDue_iff (v : Option Verbosity) (toFiles : Bool) (r : LogRecord) :
    IsDue v r ↔ LogSetup.writes ⟨v, toFiles⟩ r = true := by
  rcases v with _ | _ | _
  · simp [IsDue, LogSetup.writes]
  · simp [IsDue, LogSetup.writes, LogSetup.threshold, passesLow_iff, and_assoc]
  · simp [IsDue, LogSetup.writes, LogSetup.threshold]

instance (v : Option Verbosity) (r : LogRecord) : Decidable (IsDue v r) :=
  decidable_of_iff _ (isDue_iff v false r).symm

/-! ## Setting the log up -/

/-- A choice by a word that reads neither low nor high, blanks around it and the case aside. -/
def VerbosityChoice.IsUnsupported (choice : VerbosityChoice) (word : String) : Prop :=
  choice = .word word ∧ Text.lower (Text.trim word) ≠ "low" ∧ Text.lower (Text.trim word) ≠ "high"

theorem VerbosityChoice.read_error_iff (choice : VerbosityChoice) (word : String) :
    choice.read = .error word ↔ choice.IsUnsupported word := by
  rw [IsUnsupported]
  rcases choice with _ | b | s
  · simp [read]
  · cases b <;> simp [read]
  · rw [read]
    split
    · rename_i hlow
      simp only [reduceCtorEq, VerbosityChoice.word.injEq, false_iff, not_and]
      rintro rfl hne
      exact absurd hlow hne
    · rename_i hlow
      split
      · rename_i hhigh
        simp only [reduceCtorEq, VerbosityChoice.word.injEq, false_iff, not_and]
        rintro rfl - hne
        exact hne hhigh
      · rename_i hhigh
        simp only [Except.error.injEq, VerbosityChoice.word.injEq]
        exact ⟨fun h => ⟨h, h ▸ hlow, h ▸ hhigh⟩, fun h => h.1⟩

namespace Logbook

variable {b : Logbook} {choice : VerbosityChoice} {v : Option Verbosity} {dir? : Option DirPath}

/-- The filters of a verbosity. -/
def filtersOf : Verbosity → List LogFilter
  | .low => [.repoTag, .mutations]
  | .high => [.repoTag]

/-- The handlers of a verbosity: one that writes nowhere, or one for the console and one more for the state directory
if there is one. -/
def handlersOf : Option Verbosity → Option DirPath → List LogHandler
  | none, _ => [⟨.nowhere, []⟩]
  | some v, none => [⟨.console, filtersOf v⟩]
  | some v, some dir => [⟨.console, filtersOf v⟩, ⟨.daily dir, filtersOf v⟩]

/-- The level of a verbosity; no record reaches that of silence. -/
def levelOf : Option Verbosity → Nat
  | none => LogLevel.critical.rank + 1
  | some _ => LogLevel.info.rank

/-- The log of a state directory with no file open. -/
def closed (l : DailyLog) : DailyLog :=
  { l with kept := l.kept.close }

theorem closed_of_openDay {l : DailyLog} (h : l.kept.openDay = none) : closed l = l := by
  obtain ⟨blocked, ⟨files, openDay⟩, lost⟩ := l
  obtain rfl : openDay = none := h
  rfl

theorem closed_closed (l : DailyLog) : closed (closed l) = closed l :=
  closed_of_openDay rfl

/-- No file is open but those that a handler is there to close. -/
def Tidy (b : Logbook) : Prop :=
  ∀ dir, (∀ h ∈ b.handlers, h.target ≠ .daily dir) → (b.folders dir).kept.openDay = none

theorem close_eq (h : LogHandler) (b : Logbook) :
    close h b = { b with folders := fun d => if h.target = .daily d then closed (b.folders d) else b.folders d } := by
  cases htarget : h.target with
  | nowhere | console => simp [close, htarget]
  | daily dir => simp [close, htarget, atFolder, closed, eq_comm]

theorem foldr_close (hs : List LogHandler) (b : Logbook) :
    hs.foldr close b = { b with
      folders := fun d => if ∃ h ∈ hs, h.target = .daily d then closed (b.folders d) else b.folders d } := by
  induction hs with
  | nil => simp
  | cons h hs ih =>
    rw [List.foldr_cons, ih, close_eq]
    congr 1
    funext d
    -- two handlers may write below one directory; its file is then closed twice
    by_cases hd : h.target = .daily d
    · by_cases hlater : ∃ h ∈ hs, h.target = .daily d
      · simp [hd, hlater, closed_closed]
      · simp [hd, hlater]
    · simp [hd]

theorem clear_eq (hb : b.Tidy) : b.clear = { b with handlers := [], folders := fun d => closed (b.folders d) } := by
  have hfolders : ∀ d, (if ∃ h ∈ b.handlers, h.target = .daily d then closed (b.folders d) else b.folders d) =
      closed (b.folders d) := by
    intro d
    split
    · rfl
    · rename_i hnone
      exact (closed_of_openDay (hb d fun h hh htarget => hnone ⟨h, hh, htarget⟩)).symm
  rw [clear, foldr_close]
  simp only [hfolders]

/-- What a call that is not refused makes of a log. -/
theorem configure_accepted (hb : b.Tidy) (hread : choice.read = .ok v) :
    b.configure choice dir? = .ok
      { b with handlers := handlersOf v dir?, level := levelOf v, folders := fun d => closed (b.folders d) } := by
  rcases v with _ | v
  · rw [configure, hread, clear_eq hb]
    rfl
  · rw [configure, hread, clear_eq hb]
    cases v <;> cases dir? <;> rfl

theorem step_refused {word : String} (h : choice.IsUnsupported word) (b : Logbook) :
    b.configure choice dir? = .error (VerbosityChoice.unsupported word) ∧ b.step (.configure choice dir?) = b := by
  have hread : choice.read = .error word := (VerbosityChoice.read_error_iff choice word).mpr h
  have hconfigure : b.configure choice dir? = .error (VerbosityChoice.unsupported word) := by rw [configure, hread]
  exact ⟨hconfigure, by rw [step, hconfigure]⟩

/-! ## Records -/

/-- A log that is set up with a verbosity and a state directory. -/
structure Configured (b : Logbook) (v : Option Verbosity) (dir? : Option DirPath) : Prop where
  handlers_eq : b.handlers = handlersOf v dir?
  level_eq : b.level = levelOf v

theorem isDue_some_iff (v : Verbosity) (r : LogRecord) :
    IsDue (some v) r ↔ (LogSetup.covers r.logger = true ∧ levelOf (some v) ≤ r.level.rank) ∧
      ((filtersOf v).all fun f => f.passes r) = true := by
  cases v with
  | low => simp [IsDue, filtersOf, levelOf, LogFilter.passes, passesLow_iff, and_assoc]
  | high => simp [IsDue, filtersOf, levelOf, LogFilter.passes]

/-- What a record does to a log that is set up: if it is due, it is written once to the console and once below the state
directory if there is one, and nothing else changes. -/
theorem Configured.record_eq (h : b.Configured v dir?) (now : Stamp) (r : LogRecord) :
    b.record now r =
      if IsDue v r then
        { b with
          console := b.console ++ [r.line]
          folders := fun d => if dir? = some d then (b.folders d).emit now r.line else b.folders d }
      else b := by
  have hrecord : b.record now r =
      if LogSetup.covers r.logger = true ∧ levelOf v ≤ r.level.rank then (handlersOf v dir?).foldl (handle now r) b
      else b := by
    rw [record, ← h.handlers_eq, ← h.level_eq]
  -- the level lets a record through to all handlers or to none, and so do the filters, which all handlers share
  rcases v with _ | v
  · have hsilent : (handlersOf none dir?).foldl (handle now r) b = b := rfl
    have hdue : ¬IsDue none r := fun hdue => hdue.2.2
    rw [hrecord, hsilent, ite_self, if_neg hdue]
  · by_cases hgate : LogSetup.covers r.logger = true ∧ levelOf (some v) ≤ r.level.rank
    · rw [hrecord, if_pos hgate]
      by_cases hpass : ((filtersOf v).all fun f => f.passes r) = true
      · have haccepts : ∀ target, LogHandler.accepts ⟨target, filtersOf v⟩ r = true := fun _ => hpass
        rw [if_pos ((isDue_some_iff v r).mpr ⟨hgate, hpass⟩)]
        cases dir? with
        | none => simp [handlersOf, handle, haccepts]
        | some dir => simp [handlersOf, handle, haccepts, atFolder, eq_comm]
      · have hrejects : ∀ target, ¬LogHandler.accepts ⟨target, filtersOf v⟩ r = true := fun _ => hpass
        rw [if_neg fun hdue => hpass ((isDue_some_iff v r).mp hdue).2]
        cases dir? <;> simp [handlersOf, handle, hrejects]
    · rw [hrecord, if_neg hgate, if_neg fun hdue => hgate ((isDue_some_iff v r).mp hdue).1]

theorem Configured.record (h : b.Configured v dir?) (now : Stamp) (r : LogRecord) :
    (b.record now r).Configured v dir? := by
  rw [h.record_eq]
  split
  · exact ⟨h.handlers_eq, h.level_eq⟩
  · exact h

/-! ## Runs -/

def recordsOf (steps : List LogStep) : List (Stamp × LogRecord) :=
  steps.filterMap fun
    | .record now r => some (now, r)
    | .configure _ _ => none

/-- The records among steps that are due at a verbosity. -/
def dueOf (v : Option Verbosity) (steps : List LogStep) : List (Stamp × LogRecord) :=
  (recordsOf steps).filter fun w => IsDue v w.2

theorem dueOf_record (v : Option Verbosity) (now : Stamp) (r : LogRecord) (steps : List LogStep) :
    dueOf v (.record now r :: steps) = if IsDue v r then (now, r) :: dueOf v steps else dueOf v steps := by
  by_cases h : IsDue v r <;> simp [dueOf, recordsOf, h]

theorem dueOf_silent (steps : List LogStep) : dueOf none steps = [] :=
  List.filter_eq_nil_iff.mpr fun _ _ => by simp [IsDue]

theorem Configured.run_eq {steps : List LogStep} (h : b.Configured v dir?)
    (hrefused : ∀ choice dir?, .configure choice dir? ∈ steps → ∃ word, choice.IsUnsupported word) :
    b.run steps = { b with
      console := b.console ++ (dueOf v steps).map fun w => w.2.line
      folders := fun d =>
        if dir? = some d then (dueOf v steps).foldl (fun l w => l.emit w.1 w.2.line) (b.folders d)
        else b.folders d } := by
  induction steps generalizing b with
  | nil => simp [run, dueOf, recordsOf]
  | cons step steps ih =>
    have hlater := fun choice dir? hmem => hrefused choice dir? (List.mem_cons_of_mem step hmem)
    cases step with
    | configure choice dir'? =>
      obtain ⟨word, hword⟩ := hrefused choice dir'? List.mem_cons_self
      have hdue : dueOf v (.configure choice dir'? :: steps) = dueOf v steps := by simp [dueOf, recordsOf]
      rw [hdue, run, List.foldl_cons, (step_refused hword b).2]
      exact ih h hlater
    | record now r =>
      have hrun : b.run (.record now r :: steps) = (b.record now r).run steps := rfl
      rw [hrun, ih (h.record now r) hlater, h.record_eq, dueOf_record]
      split
      · congr 1
        · rw [List.append_assoc, List.map_cons, List.singleton_append]
        · funext d
          by_cases hd : dir? = some d <;> simp [hd]
      · rfl

/-- What a handler does to the log of a directory, which only the handler of its files writes to. -/
theorem handle_folder {h : LogHandler} {dir : DirPath} (htarget : h.target ≠ .daily dir) (now : Stamp) (r : LogRecord)
    (b : Logbook) : (handle now r b h).folders dir = b.folders dir := by
  rw [handle]
  split
  · split
    · rfl
    · rfl
    · rename_i dir' hdir
      have hne : dir ≠ dir' := fun heq => htarget (heq ▸ hdir)
      exact if_neg hne
  · rfl

theorem foldl_handle_folder {hs : List LogHandler} {dir : DirPath} (htarget : ∀ h ∈ hs, h.target ≠ .daily dir)
    (now : Stamp) (r : LogRecord) (b : Logbook) : (hs.foldl (handle now r) b).folders dir = b.folders dir := by
  induction hs generalizing b with
  | nil => rfl
  | cons h hs ih =>
    obtain ⟨hfirst, hrest⟩ := List.forall_mem_cons.mp htarget
    rw [List.foldl_cons, ih hrest, handle_folder hfirst]

theorem handle_handlers (now : Stamp) (r : LogRecord) (b : Logbook) (h : LogHandler) :
    (handle now r b h).handlers = b.handlers := by
  rw [handle]
  split
  · split <;> rfl
  · rfl

theorem foldl_handle_handlers (hs : List LogHandler) (now : Stamp) (r : LogRecord) (b : Logbook) :
    (hs.foldl (handle now r) b).handlers = b.handlers := by
  induction hs generalizing b with
  | nil => rfl
  | cons h hs ih => rw [List.foldl_cons, ih, handle_handlers]

theorem record_handlers (now : Stamp) (r : LogRecord) (b : Logbook) : (b.record now r).handlers = b.handlers := by
  rw [record]
  split
  · exact foldl_handle_handlers b.handlers now r b
  · rfl

theorem Tidy.record (hb : b.Tidy) (now : Stamp) (r : LogRecord) : (b.record now r).Tidy := by
  intro dir htarget
  rw [record_handlers] at htarget
  rw [Logbook.record]
  split
  · rw [foldl_handle_folder htarget]
    exact hb dir htarget
  · exact hb dir htarget

theorem Tidy.run (hb : b.Tidy) (steps : List LogStep) : (b.run steps).Tidy := by
  induction steps generalizing b with
  | nil => exact hb
  | cons step steps ih =>
    refine ih (b := b.step step) ?_
    cases step with
    | record now r => exact hb.record now r
    | configure choice dir? =>
      cases hread : choice.read with
      | ok v =>
        rw [Logbook.step, configure_accepted hb hread]
        exact fun dir _ => rfl
      | error word =>
        rw [(step_refused ((VerbosityChoice.read_error_iff choice word).mp hread) b).2]
        exact hb

/-- **The last setup that was not refused decides what the log does.** Whatever was done before: the handlers and the
level are those of the call, the records that are due since then stand once each on the console and once each below the
state directory if there is one, nothing else was written since then, and no file is open that nothing will close. In
silence nothing is due; a call with an unsupported word is refused and leaves any log as it was. -/
theorem last_setup_decides (hb : b.Tidy) (before after : List LogStep) (hread : choice.read = .ok v)
    (dir? : Option DirPath)
    (hrefused : ∀ choice dir?, .configure choice dir? ∈ after → ∃ word, choice.IsUnsupported word) :
    b.run (before ++ .configure choice dir? :: after) =
      { handlers := handlersOf v dir?
        level := levelOf v
        console := (b.run before).console ++ (dueOf v after).map fun w => w.2.line
        folders := fun d =>
          if dir? = some d then (dueOf v after).foldl (fun l w => l.emit w.1 w.2.line) (closed ((b.run before).folders d))
          else closed ((b.run before).folders d) } ∧
    (b.run (before ++ .configure choice dir? :: after)).Tidy ∧
    (v = none → dueOf v after = []) ∧
    ∀ (b : Logbook) (choice : VerbosityChoice) (dir? : Option DirPath) (word : String), choice.IsUnsupported word →
      b.configure choice dir? = .error (VerbosityChoice.unsupported word) ∧ b.step (.configure choice dir?) = b := by
  refine ⟨?_, hb.run _, fun hv => by rw [hv, dueOf_silent], fun b choice dir? word hword => step_refused hword b⟩
  have hstart : (b.run before).Tidy := hb.run before
  have hrun : b.run (before ++ .configure choice dir? :: after) =
      ((b.run before).step (.configure choice dir?)).run after := by
    rw [run, List.foldl_append, List.foldl_cons]
    rfl
  have hcall : (b.run before).step (.configure choice dir?) = { b.run before with
      handlers := handlersOf v dir?, level := levelOf v, folders := fun d => closed ((b.run before).folders d) } := by
    rw [step, configure_accepted hstart hread]
  have hconfigured : ((b.run before).step (.configure choice dir?)).Configured v dir? := by
    rw [hcall]
    exact ⟨rfl, rfl⟩
  rw [hrun, hconfigured.run_eq hrefused, hcall]

def recordOf (level : LogLevel) (message : String) : LogRecord :=
  ⟨level, "repowarden.governor", {}, message⟩

/-- Steps in front of a call that asks for low verbosity. -/
def stepsBefore : List LogStep :=
  [.configure (.flag true) none, .record ⟨.first, .midnight, some .utc⟩ (recordOf .info "event=github_read")]

/-- Steps behind it: a read, a word that names no verbosity, a change and a warning. -/
def stepsAfter : List LogStep := [
  .record ⟨.first, .midnight, some .utc⟩ (recordOf .info "event=github_read"), .configure (.word "loud") none,
  .record ⟨.first, .midnight, some .utc⟩ (recordOf .info "event=github_pr_closed number=7"),
  .record ⟨.first, .midnight, some .utc⟩ (recordOf .warning "event=milestones_fetch_failed")]

/-- At low verbosity the change and the warning are written behind what stood on the console before. -/
theorem last_setup_decides_low :
    let book := run {} (stepsBefore ++ .configure (.word " Low ") (some (DirPath.read "state")) :: stepsAfter)
    book.handlers = [⟨.console, [.repoTag, .mutations]⟩, ⟨.daily (DirPath.read "state"), [.repoTag, .mutations]⟩] ∧
      book.console = ["INFO repowarden.governor [MainThread] [-] event=github_read",
        "INFO repowarden.governor [MainThread] [-] event=github_pr_closed number=7",
        "WARNING repowarden.governor [MainThread] [-] event=milestones_fetch_failed"] := by
  have hrefused : ∀ choice dir?, .configure choice dir? ∈ stepsAfter → ∃ word, choice.IsUnsupported word := by
    intro choice dir? hmem
    obtain ⟨rfl, -⟩ : choice = .word "loud" ∧ dir? = none := by simpa [stepsAfter] using hmem
    exact ⟨"loud", rfl, by decide, by decide⟩
  have htidy : Tidy {} := fun _ _ => rfl
  have hread : VerbosityChoice.read (.word " Low ") = .ok (some .low) := by decide +kernel
  obtain ⟨hbook, -⟩ := last_setup_decides htidy stepsBefore stepsAfter hread (some (DirPath.read "state")) hrefused
  refine ⟨congrArg handlers hbook, (congrArg console hbook).trans ?_⟩
  decide +kernel

/-- At low verbosity a record below information is not written, though its message tells of a change. -/
theorem debug_mutation_unwritten :
    ¬∀ r : LogRecord, LogSetup.covers r.logger = true →
      ((run {} [.configure (.word "low") none, .record ⟨.first, .midnight, some .utc⟩ r]).console = [r.line] ↔
        LogLevel.warning.rank ≤ r.level.rank ∨ NamesMutation r.message) := by
  intro h
  have hmutation : NamesMutation "event=github_pr_closed" :=
    (namesMutation_iff _).mpr ⟨"github_pr_closed", by decide, by decide⟩
  have hwritten := (h (recordOf .debug "event=github_pr_closed") (by decide)).mpr (.inr hmutation)
  have hunwritten : (run {} [.configure (.word "low") none,
      .record ⟨.first, .midnight, some .utc⟩ (recordOf .debug "event=github_pr_closed")]).console = [] := by
    decide +kernel
  rw [hunwritten] at hwritten
  cases hwritten

end Logbook

end RunSteward
