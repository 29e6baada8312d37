import RunSteward.Proofs.Act.Logging
import RunSteward.Proofs.Gateway.Legibility
import RunSteward.Proofs.Gateway.OnRecord
import RunSteward.Proofs.Log.EventLine

/-!
# The audit of writes

At low verbosity the log shall tell of every write: with one line that names its event if the write was accepted, and
with one warning if it was refused. Ten of the eleven writes keep to this (`Write.audited`). The event of the other
one, the removal of a comment, is not among the mutation events, so of an accepted removal nothing is written
(`removal_untold`).

Whatever else is logged in the course of a write, about attempts, commands and the refetch of a pull request, names
other events (`IsAside`).
-/

namespace RunSteward

open Act

variable {σ : Type}

/-! ## Written lines -/

namespace LogSetup

/-- The records that are written and name an event. -/
def writtenAbout (s : LogSetup) (event : String) (records : List LogRecord) : List LogRecord :=
  (s.written records).filter fun r => decide (LogEvent.name? r.message = some event)

variable {setup : LogSetup} {event name : String} {records records' : List LogRecord}

theorem writtenAbout_append :
    setup.writtenAbout event (records ++ records') =
      setup.writtenAbout event records ++ setup.writtenAbout event records' := by
  simp [writtenAbout, written]

theorem writtenAbout_eq_nil (h : ∀ r ∈ records, LogEvent.name? r.message ≠ some event) :
    setup.writtenAbout event records = [] := by
  rw [writtenAbout, List.filter_eq_nil_iff]
  intro r hr
  simpa using h r (List.mem_filter.mp hr).1

theorem writtenAbout_singleton {level : LogLevel} {logger message : String} {scope : Scope}
    (h : LogEvent.name? message = some event) :
    setup.writtenAbout event [⟨level, logger, scope, message⟩] =
      if setup.writes ⟨level, logger, scope, message⟩ then [⟨level, logger, scope, message⟩] else [] := by
  cases hwrites : setup.writes ⟨level, logger, scope, message⟩ with
  | true => simp [writtenAbout, written, hwrites, h]
  | false => simp [writtenAbout, written, hwrites]

end LogSetup

namespace Gateway

variable {toFiles : Bool} {s : Scope} {event name : String} {fields : LogFields}

theorem covers_logger : LogSetup.covers logger = true := by
  decide

theorem writtenAbout_info (h : LogEvent.IsName event) :
    LogSetup.writtenAbout ⟨some .low, toFiles⟩ event [⟨.info, logger, s, LogEvent.message event fields⟩] =
      if mutationEvents.contains event then [⟨.info, logger, s, LogEvent.message event fields⟩] else [] := by
  have hname : LogEvent.name? (LogEvent.message event fields) = some event := LogEvent.name?_message h
  have hwrites : LogSetup.writes ⟨some .low, toFiles⟩ ⟨.info, logger, s, LogEvent.message event fields⟩ =
      mutationEvents.contains event := by
    simp [LogSetup.writes, LogSetup.threshold, LogSetup.passesLow, LogLevel.rank, hname, covers_logger]
  rw [LogSetup.writtenAbout_singleton hname, hwrites]

theorem writtenAbout_warning (h : LogEvent.IsName event) :
    LogSetup.writtenAbout ⟨some .low, toFiles⟩ event [⟨.warning, logger, s, LogEvent.message event fields⟩] =
      [⟨.warning, logger, s, LogEvent.message event fields⟩] := by
  have hwrites : LogSetup.writes ⟨some .low, toFiles⟩ ⟨.warning, logger, s, LogEvent.message event fields⟩ = true := by
    simp [LogSetup.writes, LogSetup.threshold, LogSetup.passesLow, LogLevel.rank, covers_logger]
  rw [LogSetup.writtenAbout_singleton (LogEvent.name?_message h), if_pos hwrites]

theorem writtenAbout_other {setup : LogSetup} {level : LogLevel} (h : LogEvent.IsName name) (hne : name ≠ event) :
    setup.writtenAbout event [⟨level, logger, s, LogEvent.message name fields⟩] = [] := by
  refine LogSetup.writtenAbout_eq_nil fun r hr heq => hne ?_
  obtain rfl := List.mem_singleton.mp hr
  exact Option.some.inj ((LogEvent.name?_message h).symm.trans heq)

/-! ## What is logged aside -/

/-- The events that tell of attempts, commands and reads. -/
def asideEvents : List String :=
  ["github_request_retry", "github_read", "command_timed_out", "command_failed"]

/-- A record that tells of an attempt, of a command or of a read. -/
def IsAside (r : LogRecord) : Prop :=
  ∃ name ∈ asideEvents, LogEvent.name? r.message = some name

theorem isName_of_mem (h : event ∈ asideEvents) : LogEvent.IsName event := by
  have hnames : ∀ name ∈ asideEvents, LogEvent.IsName name := by decide
  exact hnames event h

theorem isAside_message {level : LogLevel} {logger : String} (h : event ∈ asideEvents) :
    IsAside ⟨level, logger, s, LogEvent.message event fields⟩ :=
  ⟨event, h, LogEvent.name?_message (isName_of_mem h)⟩

/-- What the log says about a failing command begins like the message of an event. -/
theorem failureNote_words (f : CommandFailure) :
    ∃ event ∈ ["command_timed_out", "command_failed"], ∃ rest,
      Station.failureNote f = "event=" ++ event ++ (" " ++ rest) := by
  cases f with
  | timedOut c =>
    have hhead : "event=command_timed_out command=" = "event=" ++ "command_timed_out" ++ (" " ++ "command=") := by
      decide
    refine ⟨"command_timed_out", by simp, "command=" ++ c.line ++ " timeout_seconds=" ++ c.limitText, ?_⟩
    change "event=command_timed_out command=" ++ _ ++ _ ++ _ = _
    rw [hhead]
    simp only [String.append_assoc]
  | failed c code output errors =>
    have hhead : "event=command_failed command=" = "event=" ++ "command_failed" ++ (" " ++ "command=") := by decide
    refine ⟨"command_failed", by simp, "command=" ++ c.line ++ " exit_code=" ++ toString code
      ++ " stderr=" ++ Text.previewOutput errors Station.previewLimit
      ++ " stdout=" ++ Text.previewOutput output Station.previewLimit, ?_⟩
    change "event=command_failed command=" ++ _ ++ _ ++ _ ++ _ ++ _ ++ _ ++ _ = _
    rw [hhead]
    simp only [String.append_assoc]

theorem isAside_failureNote (f : CommandFailure) {level : LogLevel} {logger : String} :
    IsAside ⟨level, logger, s, Station.failureNote f⟩ := by
  obtain ⟨event, hevent, rest, hnote⟩ := failureNote_words f
  have haside : event ∈ asideEvents := List.mem_of_mem_drop (i := 2) hevent
  have hstops : Text.Stops (" " ++ rest).toList := by simp [Text.Stops]
  refine ⟨event, haside, LogEvent.name?_of_first (isName_of_mem haside) hstops ?_⟩
  simp only [hnote, String.toList_append]

theorem call_logs (st : Station σ) (checked : Bool) (c : Command) :
    Logs s IsAside (Session.outside (st.call checked c)) := by
  refine Logs.focus _ _ (Logs.bind (logs_outside _) fun ended => ?_)
  rcases Station.judge checked c ended with f | output
  · exact Logs.bind (logs_record (isAside_failureNote f)) fun _ => logs_pure _
  · exact Logs.bind (logs_pure ()) fun _ => logs_pure _

variable {g : Gateway σ}

theorem giveUp_logs (e : HostError) : Logs s IsAside (g.giveUp e) := by
  have hcheck : Logs s IsAside g.checkAuthentication := by
    refine Logs.bind (call_logs _ _ _) fun answer => ?_
    split
    · exact logs_fail _
    · exact logs_pure ()
  unfold giveUp
  by_cases hkind : e.kind ≠ .rateLimit
  · simp only [if_pos hkind]
    exact Logs.bind hcheck fun _ => logs_fail _
  · simp only [if_neg hkind]
    exact logs_fail _

theorem attemptFrom_logs (r : Request) (left : Nat) (error : Option HostError) :
    Logs s IsAside (g.attemptFrom r left error) := by
  induction left generalizing error with
  | zero =>
    cases error with
    | none => exact logs_fail _
    | some e => exact giveUp_logs e
  | succ left ih =>
    rw [attemptFrom]
    refine Logs.bind (logs_orHalt _) fun backoff => Logs.bind (call_logs _ _ _) fun output => ?_
    refine Logs.bind (logs_of_still fun _ => rfl) fun now => Logs.bind (logs_orHalt _) fun verdict => ?_
    cases verdict with
    | settled reply => exact logs_pure reply
    | refused e => exact logs_fail _
    | unsettled e pause =>
      have hretry : Logs s IsAside (g.noteRetry r (g.maxAttempts - left) e output.toOption) :=
        logs_record (isAside_message (by decide))
      refine Logs.bind hretry fun _ => ?_
      by_cases hleft : 0 < left
      · simp only [if_pos hleft]
        exact Logs.bind (logs_of_still fun _ => rfl) fun _ => ih (some e)
      · simp only [if_neg hleft]
        exact ih (some e)

theorem request_logs (r : Request) : Logs s IsAside (g.request r) :=
  attemptFrom_logs r _ none

theorem getJson_logs (path : String) : Logs s IsAside (g.getJson path) := by
  rw [getJson_eq]
  refine Logs.bind (logs_outside _) fun known => Logs.bind (request_logs _) fun reply => ?_
  refine logs_of_still fun d => ?_
  unfold takeReply
  split
  · cases known <;> rfl
  · rw [takeFresh_apply]

theorem pullRequest_logs (number : Int) : Logs s IsAside (g.pullRequest number) := by
  have hnote : ∀ found, Logs s IsAside
      (noteRead (σ := σ) "pull_request" [("pr_number", .int number), ("found", .flag found)]) :=
    fun found => logs_record (isAside_message (by decide))
  unfold pullRequest
  refine Logs.bind (getJson_logs _).attempt fun answer => ?_
  rcases answer with e | ⟨payload, next⟩
  · by_cases hmissing : e.kind = .notFound
    · simp only [if_pos hmissing]
      exact Logs.bind (hnote false) fun _ => logs_pure _
    · simp only [if_neg hmissing]
      exact logs_fail _
  · exact Logs.bind (logs_orRefuse _) fun pr => Logs.bind (hnote true) fun _ => logs_pure _

/-! ## What is logged of a write -/

/-- What the log gets of a write when its request has ended: nothing if the request broke off over a fault. -/
def closing (g : Gateway σ) (r : Request) (event : String) (fields : LogFields) (s : Scope) :
    Except Failure Exchange → List LogRecord
  | .ok _ => [⟨.info, logger, s, LogEvent.message event fields⟩]
  | .error (.host e) =>
    [⟨.warning, logger, s, LogEvent.message (event ++ "_failed")
      ([("repo_full_name", .text g.fullName), ("method", .text r.method.name), ("path", .text r.path)]
        ++ errorFields e ++ fields)⟩]
  | .error (.fault _) => []

theorem sendOnly_desk (r : Request) (event : String) (fields : LogFields) (s : Scope) (d : Desk (Session σ)) :
    (g.sendOnly r event fields s d).2 = (g.send r event fields s d).2 := by
  unfold sendOnly
  rcases hsend : g.send r event fields s d with ⟨f | payload, d'⟩
  · rw [bind_of_error _ hsend]
  · rw [bind_of_ok _ hsend]
    rfl

theorem sendOnly_log (r : Request) (event : String) (fields : LogFields) (s : Scope) (d : Desk (Session σ)) :
    ∃ records, (∀ x ∈ records, IsAside x) ∧ (g.sendOnly r event fields s d).2.log.toList =
      d.log.toList ++ (records ++ g.closing r event fields s (g.request r s d).1) := by
  obtain ⟨records, hrecords, haside⟩ := request_logs (g := g) r (s := s) d
  refine ⟨records, haside, ?_⟩
  rw [← List.append_assoc, ← hrecords, sendOnly_desk]
  unfold send
  rcases hrequest : g.request r s d with ⟨(e | f) | x, d'⟩
  · rw [bind_of_ok _ (attempt_of_refusal hrequest)]
    exact Array.toList_push
  · rw [bind_of_error _ (attempt_of_fault hrequest)]
    exact (List.append_nil _).symm
  · -- the reply is read after the log was written
    have hrest : ∀ p : Except Fault (Option Json), ∀ e : Desk (Session σ), (orHalt p s e).2 = e := by
      rintro (f | p) e <;> rfl
    rw [bind_of_ok _ (attempt_of_ok hrequest)]
    change (orHalt (Json.read g.nesting x.body) s { d' with log := d'.log.push _ }).2.log.toList = _
    rw [hrest]
    exact Array.toList_push

end Gateway

/-! ## Writes -/

/-- A write of a gateway. -/
inductive Write where
  | removeComment (id : Int)
  | createCheckRun (draft : CheckRunDraft)
  | createStatus (draft : StatusDraft)
  | cancelRun (run : WorkflowRun)
  | removeRun (run : WorkflowRun)
  | updateBranch (pr : PullRequest)
  | merge (pr : PullRequest) (draft : MergeDraft)
  | addLabel (pr : PullRequest) (label : String)
  | removeLabel (pr : PullRequest) (label : String)
  | addComment (pr : PullRequest) (body : String)
  | close (number : Int)

namespace Write

open Gateway

/-- Does a write. Whatever it gives as a result is of no interest here. -/
def perform (g : Gateway σ) : Write → Act (Session σ) Unit
  | removeComment id => g.removeComment id
  | createCheckRun draft => do let _ ← g.createCheckRun draft
  | createStatus draft => do let _ ← g.createStatus draft
  | cancelRun run => g.cancelRun run
  | removeRun run => g.removeRun run
  | updateBranch pr => do let _ ← g.updateBranch pr
  | merge pr draft => do let _ ← g.merge pr draft
  | addLabel pr label => g.addLabel pr label
  | removeLabel pr label => g.removeLabel pr label
  | addComment pr body => g.addComment pr body
  | close number => g.close number

/-- The event that tells of a write that was accepted. -/
def event : Write → String
  | removeComment _ => "github_comment_removed"
  | createCheckRun _ => "github_check_run_created"
  | createStatus _ => "github_status_created"
  | cancelRun _ => "workflow_run_cancelled"
  | removeRun _ => "workflow_run_removed"
  | updateBranch _ => "github_base_merged"
  | merge _ _ => "github_pr_merged"
  | addLabel _ _ => "github_label_added"
  | removeLabel _ _ => "github_label_removed"
  | addComment _ _ => "github_comment_posted"
  | close _ => "github_pr_closed"

/-- The event that tells of a write that was refused. -/
def failedEvent (w : Write) : String :=
  w.event ++ "_failed"

/-- Tells whether the event of a write is written at low verbosity: that of a removed comment is not. -/
def kept : Write → Bool
  | removeComment _ => false
  | _ => true

def request (g : Gateway σ) : Write → Request
  | removeComment id => { method := .delete, path := g.pathTo ("/issues/comments/" ++ toString id) }
  | createCheckRun d =>
    { method := .post
      path := g.pathTo "/check-runs"
      payload := some (.object [("name", .string d.name), ("head_sha", .string d.headSha),
        ("status", .string d.status), ("conclusion", .string d.conclusion),
        ("output", textObject [("title", d.title), ("summary", d.summary)])]) }
  | createStatus d =>
    { method := .post, path := g.pathTo ("/statuses/" ++ d.sha), payload := some (statusPayload d) }
  | cancelRun r => { method := .post, path := g.runPath r ++ "/cancel" }
  | removeRun r => { method := .delete, path := g.runPath r }
  | updateBranch pr =>
    { method := .put
      path := g.pullPath pr.number ++ "/update-branch"
      payload := some (textObject [("expected_head_sha", pr.headSha)]) }
  | merge pr d =>
    { method := .put
      path := g.pullPath pr.number ++ "/merge"
      payload := some (textObject [("commit_title", d.commitTitle), ("commit_message", d.commitMessage),
        ("sha", d.expectedHeadSha), ("merge_method", d.method)]) }
  | addLabel pr label =>
    { method := .post
      path := g.labelsPath pr
      payload := some (.object [("labels", .array [.string label])]) }
  | removeLabel pr label =>
    { method := .delete, path := g.labelsPath pr ++ "/" ++ Text.percentSegment label }
  | addComment pr body =>
    { method := .post
      path := g.pathTo ("/issues/" ++ toString pr.number ++ "/comments")
      payload := some (textObject [("body", body)]) }
  | close number =>
    { method := .patch, path := g.pullPath number, payload := some (textObject [("state", "closed")]) }

def fields : Write → LogFields
  | removeComment id => [("comment_id", .int id)]
  | createCheckRun d =>
    [("name", .text d.name), ("head_sha", .text d.headSha), ("conclusion", .text d.conclusion)]
  | createStatus d => [("sha", .text d.sha), ("state", .text d.state), ("context", .text d.context)]
  | cancelRun r => runFields r
  | removeRun r => runFields r
  | updateBranch pr => [("pr_number", .int pr.number), ("base", .text pr.baseRef)]
  | merge pr d => [("pr_number", .int pr.number), ("merge_method", .text d.method)]
  | addLabel pr label => [("pr_number", .int pr.number), ("label", .text label)]
  | removeLabel pr label => [("pr_number", .int pr.number), ("label", .text label)]
  | addComment pr _ => [("pr_number", .int pr.number)]
  | close number => [("pr_number", .int number)]

/-- What follows a write that was accepted: an updated pull request is fetched again. -/
def followUp (g : Gateway σ) : Write → Act (Session σ) Unit
  | updateBranch pr => do let _ ← g.pullRequest pr.number
  | _ => pure ()

theorem perform_eq (g : Gateway σ) (w : Write) :
    w.perform g = g.sendOnly (w.request g) w.event w.fields >>= fun _ => w.followUp g := by
  cases w <;>
    simp only [perform, request, event, fields, followUp, Gateway.removeComment, Gateway.createCheckRun,
      Gateway.createStatus, Gateway.cancelRun, Gateway.removeRun, Gateway.updateBranch, Gateway.merge,
      Gateway.addLabel, Gateway.removeLabel, Gateway.addComment, Gateway.close, sendOnly, bind_assoc, pure_bind]

theorem followUp_logs {g : Gateway σ} {s : Scope} (w : Write) : Logs s IsAside (w.followUp g) := by
  unfold followUp
  split
  · exact Logs.bind (pullRequest_logs _) fun _ => logs_pure ()
  · exact logs_pure ()

/-! ## The audit -/

theorem contains_event (w : Write) : mutationEvents.contains w.event = w.kept := by
  cases w <;> simp only [event, kept] <;> decide

theorem isName_event (w : Write) : LogEvent.IsName w.event := by
  cases w <;> simp only [event] <;> decide

theorem isName_failedEvent (w : Write) : LogEvent.IsName w.failedEvent := by
  cases w <;> simp only [failedEvent, event] <;> decide

theorem event_ne_failedEvent (w : Write) : w.event ≠ w.failedEvent := by
  cases w <;> simp only [failedEvent, event] <;> decide

theorem events_not_aside (w : Write) : w.event ∉ asideEvents ∧ w.failedEvent ∉ asideEvents := by
  cases w <;> simp only [failedEvent, event, asideEvents] <;> decide

/-- What is logged of a write, apart from what names neither of its events. -/
theorem perform_log (g : Gateway σ) (w : Write) (s : Scope) (d : Desk (Session σ)) :
    ∃ before after, (∀ r ∈ before, IsAside r) ∧ (∀ r ∈ after, IsAside r) ∧
      (w.perform g s d).2.log.toList = d.log.toList ++
        (before ++ g.closing (w.request g) w.event w.fields s (g.request (w.request g) s d).1 ++ after) := by
  obtain ⟨before, hbefore, hlog⟩ := sendOnly_log (g := g) (w.request g) w.event w.fields s d
  rw [perform_eq]
  rcases hsend : g.sendOnly (w.request g) w.event w.fields s d with ⟨f | _, d'⟩ <;> rw [hsend] at hlog
  · rw [bind_of_error _ hsend]
    exact ⟨before, [], hbefore, by simp, by simpa using hlog⟩
  · rw [bind_of_ok _ hsend]
    obtain ⟨after, hafter, haside⟩ := followUp_logs (g := g) (s := s) w d'
    exact ⟨before, after, hbefore, haside, by rw [hafter, hlog, List.append_assoc]⟩

/-- What is written of a write under the name of an event that only its closing record may have. -/
theorem writtenAbout_perform {setup : LogSetup} {name : String} {before middle after : List LogRecord}
    (hbefore : ∀ r ∈ before, IsAside r) (hafter : ∀ r ∈ after, IsAside r) (hname : name ∉ asideEvents) :
    setup.writtenAbout name (before ++ middle ++ after) = setup.writtenAbout name middle := by
  have hnone : ∀ records : List LogRecord, (∀ r ∈ records, IsAside r) → setup.writtenAbout name records = [] := by
    intro records haside
    refine LogSetup.writtenAbout_eq_nil fun r hr heq => ?_
    obtain ⟨other, hother, hread⟩ := haside r hr
    obtain rfl : other = name := Option.some.inj (hread.symm.trans heq)
    exact hname hother
  rw [LogSetup.writtenAbout_append, LogSetup.writtenAbout_append, hnone before hbefore, hnone after hafter,
    List.nil_append, List.append_nil]

/-- **At low verbosity the log tells of every write**, whatever the host answers and whatever was logged before: if one
of the attempts was accepted, with one line that names its event, unless a comment was removed, and with no warning;
and if the request was refused, with one warning and no such line. -/
theorem audited (g : Gateway σ) (w : Write) (toFiles : Bool) (s : Scope) (d : Desk (Session σ)) :
    ∃ records, (w.perform g s d).2.log.toList = d.log.toList ++ records ∧
      ((∃ e, .ran ((w.request g).command g.timeLimit) e ∈ g.trace (w.request g) s d ∧ e.Accepted) →
        LogSetup.writtenAbout ⟨some .low, toFiles⟩ w.event records =
            (if w.kept then [⟨.info, logger, s, LogEvent.message w.event w.fields⟩] else []) ∧
          LogSetup.writtenAbout ⟨some .low, toFiles⟩ w.failedEvent records = []) ∧
      ∀ e, (g.request (w.request g) s d).1 = .error (.host e) →
        (w.perform g s d).1 = .error (.host e) ∧
          LogSetup.writtenAbout ⟨some .low, toFiles⟩ w.failedEvent records =
            [⟨.warning, logger, s, LogEvent.message w.failedEvent
              ([("repo_full_name", .text g.fullName), ("method", .text (w.request g).method.name),
                ("path", .text (w.request g).path)] ++ errorFields e ++ w.fields)⟩] ∧
          LogSetup.writtenAbout ⟨some .low, toFiles⟩ w.event records = [] := by
  obtain ⟨before, after, hbefore, hafter, hlog⟩ := perform_log g w s d
  obtain ⟨hevent, hfailed⟩ := w.events_not_aside
  refine ⟨_, hlog, fun haccepted => ?_, fun e hrefused => ?_⟩
  · obtain ⟨e, hmem, x, hreply, hsucceeded⟩ := haccepted
    have hok := ((trace_told g (w.request g) s d).accepted x).mpr ⟨e, hmem, hreply, hsucceeded⟩
    rw [hok, writtenAbout_perform hbefore hafter hevent, writtenAbout_perform hbefore hafter hfailed]
    refine ⟨?_, writtenAbout_other w.isName_event w.event_ne_failedEvent⟩
    rw [closing, writtenAbout_info w.isName_event, contains_event]
  · have hends : (w.perform g s d).1 = .error (.host e) := by
      obtain ⟨log, hsend⟩ := sendOnly_apply g (w.request g) w.event w.fields s d
      rw [hrefused] at hsend
      rw [perform_eq, bind_of_error _ hsend]
    rw [hrefused, writtenAbout_perform hbefore hafter hevent, writtenAbout_perform hbefore hafter hfailed]
    exact ⟨hends, writtenAbout_warning w.isName_failedEvent,
      writtenAbout_other w.isName_failedEvent w.event_ne_failedEvent.symm⟩

def accepting : Gateway Unit :=
  printing "HTTP/2.0 204 No Content\n\n"

def refusing : Gateway Unit :=
  printing "HTTP/2.0 404 Not Found\n\n"

def freshDesk : Desk (Session Unit) :=
  ⟨⟨(), []⟩, #[]⟩

theorem accepted_of_result {g : Gateway σ} {r : Request} {s : Scope} {d : Desk (Session σ)} {x : Exchange}
    (h : (g.request r s d).1 = .ok x) : ∃ e, .ran (r.command g.timeLimit) e ∈ g.trace r s d ∧ e.Accepted := by
  obtain ⟨e, hmem, hreply, hsucceeded⟩ := ((trace_told g r s d).accepted x).mp h
  exact ⟨e, hmem, x, hreply, hsucceeded⟩

/-- One line for a pull request that was closed, and one warning for a pull request that is not there. -/
theorem audited_close :
    (∃ e, .ran (((close 7).request accepting).command accepting.timeLimit) e ∈
        accepting.trace ((close 7).request accepting) {} freshDesk ∧ e.Accepted) ∧
      (∃ records, ((close 7).perform accepting {} freshDesk).2.log.toList = freshDesk.log.toList ++ records ∧
        LogSetup.writtenAbout ⟨some .low, false⟩ "github_pr_closed" records =
          [⟨.info, logger, {}, LogEvent.message "github_pr_closed" [("pr_number", .int 7)]⟩]) ∧
      (refusing.request ((close 7).request refusing) {} freshDesk).1 = .error (.host
        ⟨.notFound, "GitHub API PATCH /repos/o/r/pulls/7 failed with status 404: <empty>"⟩) ∧
      ∃ records, ((close 7).perform refusing {} freshDesk).2.log.toList = freshDesk.log.toList ++ records ∧
        (LogSetup.writtenAbout ⟨some .low, false⟩ "github_pr_closed_failed" records).length = 1 ∧
        LogSetup.writtenAbout ⟨some .low, false⟩ "github_pr_closed" records = [] := by
  have hok : (accepting.request ((close 7).request accepting) {} freshDesk).1 = .ok ⟨204, [], ""⟩ := by decide +kernel
  have hrefused : (refusing.request ((close 7).request refusing) {} freshDesk).1 = .error (.host
      ⟨.notFound, "GitHub API PATCH /repos/o/r/pulls/7 failed with status 404: <empty>"⟩) := by decide +kernel
  obtain ⟨lines, hlines, htold, -⟩ := audited accepting (close 7) false {} freshDesk
  obtain ⟨warnings, hwarnings, -, hwarned⟩ := audited refusing (close 7) false {} freshDesk
  obtain ⟨-, hwarning, hnone⟩ := hwarned _ hrefused
  refine ⟨accepted_of_result hok, ⟨lines, hlines, (htold (accepted_of_result hok)).1⟩, hrefused,
    warnings, hwarnings, ?_, hnone⟩
  exact (congrArg List.length hwarning).trans rfl

/-- Nothing is written of a comment that was removed. -/
theorem removal_untold :
    (∃ e, .ran (((removeComment 5).request accepting).command accepting.timeLimit) e ∈
        accepting.trace ((removeComment 5).request accepting) {} freshDesk ∧ e.Accepted) ∧
      LogSetup.written ⟨some .low, false⟩ ((removeComment 5).perform accepting {} freshDesk).2.log.toList = [] := by
  have hok : (accepting.request ((removeComment 5).request accepting) {} freshDesk).1 = .ok ⟨204, [], ""⟩ := by
    decide +kernel
  exact ⟨accepted_of_result hok, by decide +kernel⟩

end Write

end RunSteward
