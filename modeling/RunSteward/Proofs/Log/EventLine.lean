import RunSteward.Log.DailyFile
import RunSteward.Log.Setup
import RunSteward.Proofs.Json.Literal
import RunSteward.Proofs.Text.Blank

/-!
# The line of an event

The fields of an event hold names, comments and error texts that come from outside. None of them can forge the log
(`message_unforgeable`): the message of an event stays on one line, its first word names the event, and so whether it
is written at low verbosity is decided by the name of the event alone.

A value is written as it stands only if there is no blank in it, and a line break is a blank; every other value
becomes a string literal, which is visible ASCII (`render_breakless`). The name of the event comes first, and the next
character is the space in front of the first field, if there is a field (`message_toList`).
-/

namespace RunSteward

/-! ## Values -/

theorem LogValue.unbroken_of_needsQuotes {s : List Char} (h : needsQuotes s = false) : Text.Unbroken s := by
  rw [needsQuotes, Bool.or_eq_false_iff, List.any_eq_false] at h
  exact fun c hc => by simpa using h.2 c hc

theorem LogValue.render_breakless (v : LogValue) : Text.Breakless v.render := by
  intro c hc
  rw [render] at hc
  split at hc
  · exact Text.isLineBreak_of_visible (Json.stringLiteral_visible _ hc)
  · rename_i hplain
    exact (unbroken_of_needsQuotes (Bool.eq_false_iff.mpr hplain)).breakless c hc

namespace LogEvent

/-- What an event may be called: a short word without an equals sign. -/
structure IsName (event : String) : Prop where
  ne_nil : event.toList ≠ []
  unbroken : Text.Unbroken event.toList
  noEquals : '=' ∉ event.toList
  short : event.toList.length ≤ 120

instance (event : String) : Decidable (IsName event) :=
  decidable_of_iff
    (event.toList ≠ [] ∧ Text.Unbroken event.toList ∧ '=' ∉ event.toList ∧ event.toList.length ≤ 120)
    ⟨fun ⟨h₁, h₂, h₃, h₄⟩ => ⟨h₁, h₂, h₃, h₄⟩, fun ⟨h₁, h₂, h₃, h₄⟩ => ⟨h₁, h₂, h₃, h₄⟩⟩

variable {event : String} {fields : LogFields}

theorem IsName.render (h : IsName event) : (LogValue.text event).render = event.toList := by
  have hplain : (LogValue.text event).plain = event.toList := (h.unbroken.tidy h.ne_nil h.short).squash
  have hquotes : LogValue.needsQuotes event.toList = false := by
    rw [LogValue.needsQuotes, Bool.or_eq_false_iff, List.any_eq_false]
    exact ⟨by simpa using h.noEquals, fun c hc => by simp [h.unbroken c hc]⟩
  rw [LogValue.render, hplain]
  simp [hquotes]

/-! ## The message -/

/-- The fields of an event as they stand behind its name. -/
def fieldsText (fields : LogFields) : List Char :=
  (sortFields fields).flatMap fun p => ' ' :: pairText p

theorem message_pairs (event : String) (fields : LogFields) :
    (message event fields).toList = pairText ("event", .text event) ++ fieldsText fields := by
  rw [message, String.toList_ofList, List.map_cons, Text.intercalate_cons, fieldsText, List.flatMap_map]

theorem message_toList (h : IsName event) :
    (message event fields).toList = "event=".toList ++ event.toList ++ fieldsText fields := by
  have hpair : pairText ("event", .text event) = "event=".toList ++ event.toList := by
    simp [pairText, h.render]
  rw [message_pairs, hpair]

theorem pairText_breakless {p : String × LogValue} (h : Text.Unbroken p.1.toList) : Text.Breakless (pairText p) := by
  rw [pairText]
  exact h.breakless.append (.cons (by decide) p.2.render_breakless)

theorem fieldsText_breakless (hkeys : ∀ p ∈ fields, Text.Unbroken p.1.toList) :
    Text.Breakless (fieldsText fields) := by
  intro c hc
  obtain ⟨p, hp, hpair⟩ := List.mem_flatMap.mp hc
  have hkey : Text.Unbroken p.1.toList := hkeys p (List.mem_mergeSort.mp hp)
  exact Text.Breakless.cons (by decide) (pairText_breakless hkey) c hpair

theorem message_breakless (h : IsName event) (hkeys : ∀ p ∈ fields, Text.Unbroken p.1.toList) :
    Text.Breakless (message event fields).toList := by
  have hhead : Text.Breakless "event=".toList := by decide
  rw [message_toList h]
  exact (hhead.append h.unbroken.breakless).append (fieldsText_breakless hkeys)

theorem pairs_stops (ps : LogFields) : Text.Stops (ps.flatMap fun p => ' ' :: pairText p) := by
  cases ps <;> simp [Text.Stops]

theorem fieldsText_stops (fields : LogFields) : Text.Stops (fieldsText fields) :=
  pairs_stops _

/-- What begins with a name as the value of `event` tells of that event, if the name stops there. -/
theorem name?_of_first {text : String} {rest : List Char} (h : IsName event) (hrest : Text.Stops rest)
    (htext : text.toList = "event=".toList ++ event.toList ++ rest) : name? text = some event := by
  have hword : Text.Unbroken ("event".toList ++ '=' :: event.toList) := by
    have hhead : Text.Unbroken "event".toList := by decide
    intro c hc
    rcases List.mem_append.mp hc with hc | hc
    · exact hhead c hc
    · rcases List.mem_cons.mp hc with rfl | hc
      · decide
      · exact h.unbroken c hc
  have hfirst : text.toList.takeWhile (· != ' ') = "event".toList ++ '=' :: event.toList := by
    rw [htext, ← hword.takeWhile_append hrest]
    simp
  simp only [name?]
  rw [hfirst, Text.cut?_append (by decide)]
  simp [h.ne_nil]

/-- The first word of a message tells the name of its event. -/
theorem name?_message (h : IsName event) : name? (message event fields) = some event :=
  name?_of_first h (fieldsText_stops fields) (message_toList h)

/-! ## The log -/

/-- A record takes as many lines as it takes without its message, if the message ends no line. -/
theorem length_linesOf_record {message : String} (h : Text.Breakless message.toList) (level : LogLevel)
    (logger : String) (scope : Scope) :
    (DailyFiles.linesOf [(LogRecord.mk level logger scope message).line]).length =
      (DailyFiles.linesOf [(LogRecord.mk level logger scope "").line]).length := by
  have hline : ∀ m : String, (DailyFiles.linesOf [(LogRecord.mk level logger scope m).line]).length =
      (Text.lines ((level.name ++ " " ++ logger ++ " [" ++ scope.thread ++ "] [" ++ LogRecord.repoTag scope.repo ++
        "]").toList ++ ' ' :: (m.toList ++ ['\n']))).length := by
    intro m
    simp [DailyFiles.linesOf, LogRecord.line]
  rw [hline, hline, Text.length_lines_insert _ h (by simp)]
  rfl

/-- **No field can forge the log.** The message of an event ends no line, whatever the values of its fields are, and
what is read as the name of the event is its name. So at low verbosity it is decided by the name alone whether the
message is written, and its record takes no more lines of the log than a record without a message. -/
theorem message_unforgeable (h : IsName event) (hkeys : ∀ p ∈ fields, Text.Unbroken p.1.toList) :
    Text.Breakless (message event fields).toList ∧
      name? (message event fields) = some event ∧
      (∀ toFiles logger scope, LogSetup.writes ⟨some .low, toFiles⟩ ⟨.info, logger, scope, message event fields⟩ =
        (LogSetup.covers logger && mutationEvents.contains event)) ∧
      ∀ level logger scope,
        (DailyFiles.linesOf [(LogRecord.mk level logger scope (message event fields)).line]).length =
          (DailyFiles.linesOf [(LogRecord.mk level logger scope "").line]).length := by
  have hname : name? (message event fields) = some event := name?_message h
  have hbreakless := message_breakless h hkeys
  refine ⟨hbreakless, hname, fun toFiles logger scope => ?_, length_linesOf_record hbreakless⟩
  simp [LogSetup.writes, LogSetup.threshold, LogSetup.passesLow, hname, LogLevel.rank]

/-- Values that break lines, hold quotes and pairs of their own, and name another event. -/
def hostileFields : LogFields := [
  ("error", .text "lost\u2028event=workflow_run_removed run_id=5"), ("branch", .text "a\r\n\"event=github_pr_merged\""),
  ("kind", .other "odd\x85kind"), ("run_id", .int 5), ("since", .none), ("dry_run", .flag true)]

/-- An event that changes nothing keeps its line and its name with such fields; at low verbosity it is not written. -/
theorem message_unforgeable_hostile :
    IsName "github_read" ∧ (∀ p ∈ hostileFields, Text.Unbroken p.1.toList) ∧
      Text.Breakless (message "github_read" hostileFields).toList ∧
      name? (message "github_read" hostileFields) = some "github_read" ∧
      LogSetup.writes ⟨some .low, true⟩ ⟨.info, "repowarden", {}, message "github_read" hostileFields⟩ = false ∧
      (DailyFiles.linesOf [(LogRecord.mk .info "repowarden" {} (message "github_read" hostileFields)).line]).length =
        (DailyFiles.linesOf [(LogRecord.mk .info "repowarden" {} "").line]).length := by
  have hname : IsName "github_read" := by decide
  have hkeys : ∀ p ∈ hostileFields, Text.Unbroken p.1.toList := by decide
  obtain ⟨hbreakless, hread, hwrites, hlines⟩ := message_unforgeable hname hkeys
  refine ⟨hname, hkeys, hbreakless, hread, ?_, hlines .info "repowarden" {}⟩
  rw [hwrites]
  decide

end LogEvent

end RunSteward
