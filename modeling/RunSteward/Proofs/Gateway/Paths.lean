import RunSteward.Proofs.Gateway.Contents
import RunSteward.Proofs.Gateway.Paging
import RunSteward.Proofs.Text.Percent

/-!
# Paths that are asked for

Names that outsiders choose, of branches, events, labels and references, go into paths. A path is asked for exactly as
it is meant (`paths_faithful`): the query for the runs of a filter says what the filter says and no more, so the paths
of two filters differ, and with them what is remembered for them; and a reference or a label is the last segment of its
path.
-/

namespace RunSteward

open Act

variable {σ α : Type}

/-- The parameters that a filter of runs means: the size of a page, and then each field that is present. -/
def RunFilter.parameters (f : RunFilter) : List (String × String) :=
  [("per_page", some "100"), ("branch", f.branch), ("event", f.event), ("status", f.status)].filterMap fun p =>
    p.2.map fun value => (p.1, value)

namespace RunFilter

variable {f f' : RunFilter}

theorem mem_parameters {name value : String} : (name, value) ∈ f.parameters ↔
    (name, value) = ("per_page", "100") ∨ (name = "branch" ∧ f.branch = some value) ∨
      (name = "event" ∧ f.event = some value) ∨ (name = "status" ∧ f.status = some value) := by
  simp [parameters, eq_comm, and_comm]

theorem parameters_injective (h : f.parameters = f'.parameters) : f = f' := by
  have hvalues : ∀ name value, (name, value) ∈ f.parameters ↔ (name, value) ∈ f'.parameters := by simp [h]
  have hbranch : f.branch = f'.branch := Option.ext fun value => by simpa [mem_parameters] using hvalues "branch" value
  have hevent : f.event = f'.event := Option.ext fun value => by simpa [mem_parameters] using hvalues "event" value
  have hstatus : f.status = f'.status := Option.ext fun value => by simpa [mem_parameters] using hvalues "status" value
  cases f
  cases f'
  simp_all

theorem parameters?_query (f : RunFilter) : Text.parameters? f.query.toList = some f.parameters := by
  have hparameters : f.parameters = sizeParameter perPage ::
      (parameter? "branch" f.branch ++ parameter? "event" f.event ++ parameter? "status" f.status) := by
    rcases f with ⟨_ | branch, _ | event, _ | status⟩ <;> rfl
  rw [hparameters]
  exact Text.parameters?_queryLine (by simp)

end RunFilter

/-- The path that a command asks for. -/
def Command.path? (c : Command) : Option String :=
  Script.after? "--include" c.argv

/-- What an act asks of the station, in order. -/
def eventsOf (x : Act (Session (Recorded σ)) α) (s : Scope) (d : Desk (Session σ)) : List StationEvent :=
  (x s d.onRecord).2.world.world.events

namespace Gateway

variable {g : Gateway σ} {s : Scope} {d : Desk (Session σ)}

/-- Tells of events that they are the request for a path: no command asks for anything else, except the one that asks
who is logged in, and if there is an attempt at all, then one does ask for the path. -/
structure Requests (g : Gateway σ) (path : String) (events : List StationEvent) : Prop where
  only : ∀ c e, .ran c e ∈ events → c = g.loginCommand ∨ c.path? = some path
  sent : 1 ≤ g.maxAttempts → ∃ c e, .ran c e ∈ events ∧ c.path? = some path

theorem path?_command (r : Request) (timeLimit : Number) : (r.command timeLimit).path? = some r.path := by
  rcases r with ⟨method, path, payload, etag⟩
  have hmethod : method.name ≠ "--include" := by cases method <;> decide
  cases etag with
  | none => simp [Command.path?, Request.command, Request.argv, Script.after?, hmethod]
  | some tag =>
    have htag : "If-None-Match: " ++ tag ≠ "--include" := by
      intro heq
      have hstart := congrArg (fun text => text.toList.head?) heq
      simp at hstart
    simp [Command.path?, Request.command, Request.argv, Script.after?, hmethod, htag]

theorem trace_requests (g : Gateway σ) (r : Request) (s : Scope) (d : Desk (Session σ)) :
    g.Requests r.path (g.trace r s d) := by
  refine ⟨fun c e hmem => ?_, fun hfirst => ?_⟩
  · rcases (trace_told g r s d).commands c e hmem with rfl | rfl
    · exact .inr (path?_command r g.timeLimit)
    · exact .inl rfl
  · obtain ⟨e, more, htrace⟩ := trace_begins g r s d hfirst
    rw [htrace]
    exact ⟨_, e, List.mem_cons_self, path?_command r g.timeLimit⟩

/-! ## Reads -/

theorem page_asks (g : Gateway σ) (l : Listing) (s : Scope) (d : Desk (Session σ)) :
    eventsOf (g.recorded.page l none) s d = g.trace (readRequest (g.pathTo l.path) d) s d :=
  page_events g l none s d.onRecord

theorem commit_asks (g : Gateway σ) (ref : String) (s : Scope) (d : Desk (Session σ)) :
    eventsOf (g.recorded.commit ref) s d =
      g.trace (readRequest (g.pathTo ("/commits/" ++ Text.percentSegment ref)) d) s d := by
  have hobject : eventsOf (g.recorded.getObject "commit" ("/commits/" ++ Text.percentSegment ref)) s d =
      eventsOf (g.recorded.getJson (g.pathTo ("/commits/" ++ Text.percentSegment ref))) s d := by
    refine events_of_bind (fun answer s d => ?_) s d.onRecord
    obtain ⟨payload, next⟩ := answer
    dsimp only
    generalize Payload.object "commit" Except.ok payload = r
    cases r <;> rfl
  have hcommit : eventsOf (g.recorded.commit ref) s d =
      eventsOf (g.recorded.getObject "commit" ("/commits/" ++ Text.percentSegment ref)) s d := by
    refine events_of_bind (fun members s d => ?_) s d.onRecord
    generalize Commit.read members = r
    cases r <;> rfl
  rw [hcommit, hobject, eventsOf, getJson_apply]
  exact events_of_bind (takeReply_still g _ _) s d.onRecord

/-! ## Writes -/

theorem removeLabel_asks (g : Gateway σ) (pr : PullRequest) (label : String) (s : Scope) (d : Desk (Session σ)) :
    eventsOf (g.recorded.removeLabel pr label) s d =
      g.trace { method := .delete, path := g.labelsPath pr ++ "/" ++ Text.percentSegment label } s d := by
  obtain ⟨log, hsend⟩ := sendOnly_apply g.recorded
    { method := .delete, path := g.labelsPath pr ++ "/" ++ Text.percentSegment label } "github_label_removed"
    [("pr_number", .int pr.number), ("label", .text label)] s d.onRecord
  exact congrArg (fun end' => end'.2.world.world.events) hsend

/-! ## Paths and what they mean -/

/-- The path that the runs of a filter are read from. -/
def runsPath (g : Gateway σ) (f : RunFilter) : String :=
  g.pathTo (Listing.runs f).path

theorem runsPath_eq (g : Gateway σ) (f : RunFilter) :
    g.runsPath f = "/repos/" ++ g.owner ++ "/" ++ g.name ++ "/actions/runs?" ++ f.query :=
  String.append_assoc.symm

/-- Two filters that are read from one path are the same filter, for the path says all of it. -/
theorem runsPath_injective : Function.Injective g.runsPath := by
  intro f f' h
  have hquery : f.query = f'.query := by
    rw [runsPath_eq, runsPath_eq] at h
    simpa using h
  apply RunFilter.parameters_injective
  have hparameters := f.parameters?_query
  rw [hquery, f'.parameters?_query] at hparameters
  exact (Option.some.inj hparameters).symm

theorem page_cache (g : Gateway σ) (l : Listing) (cursor : Option Cursor) (s : Scope) (d : Desk (Session σ)) :
    (g.page l cursor s d).2.world.cache = (g.getJson (cursor.getD (g.pathTo l.path)) s d).2.world.cache := by
  rw [page]
  rcases hjson : g.getJson (cursor.getD (g.pathTo l.path)) s d with ⟨f | ⟨payload, next⟩, d'⟩
  · rw [bind_of_error _ hjson]
  · rw [bind_of_ok _ hjson]
    rcases hread : l.read payload with e | items
    · simp only [hread]
      rfl
    · simp only [hread]
      rfl

/-- A text that a path has as its last segment: what stands behind the last slash is no query and no fragment, and it
stands for the text. -/
structure LastSegment (front text path : String) : Prop where
  segment : ∃ segment : String, path = front ++ "/" ++ segment ∧
    (∀ c ∈ segment.toList, c ≠ '/' ∧ c ≠ '?' ∧ c ≠ '#') ∧ Text.percentText? segment.toList = some text

theorem lastSegment (front text : String) : LastSegment front text (front ++ "/" ++ Text.percentSegment text) := by
  refine ⟨_, rfl, fun c hc => ?_, Text.percentText?_percentSegment text⟩
  have hchar := Text.segment_char hc
  refine ⟨?_, ?_, ?_⟩ <;> rintro rfl <;> exact absurd hchar (by decide)

/-- **Paths are faithful.** What is asked for the runs of a filter is the request for one path, whose query is read back
as what the filter means. Two filters have different paths, and reading the one does not touch what is remembered for
the other. A commit and a label are asked for by a path that has the reference, or the label, as its last segment. -/
theorem paths_faithful (g : Gateway σ) (s : Scope) (d : Desk (Session σ)) :
    (∀ f : RunFilter, ∃ query : String, Text.parameters? query.toList = some f.parameters ∧
      g.runsPath f = "/repos/" ++ g.owner ++ "/" ++ g.name ++ "/actions/runs?" ++ query ∧
      eventsOf (g.recorded.page (.runs f) none) s d = g.trace (readRequest (g.runsPath f) d) s d ∧
      g.Requests (g.runsPath f) (eventsOf (g.recorded.page (.runs f) none) s d)) ∧
    Function.Injective g.runsPath ∧
    (∀ f f' : RunFilter, f ≠ f' →
      (g.page (.runs f) none s d).2.world.cache.reply? (g.runsPath f') = d.world.cache.reply? (g.runsPath f')) ∧
    (∀ ref, ∃ path, LastSegment ("/repos/" ++ g.owner ++ "/" ++ g.name ++ "/commits") ref path ∧
      g.Requests path (eventsOf (g.recorded.commit ref) s d)) ∧
    ∀ pr label, ∃ path,
      LastSegment ("/repos/" ++ g.owner ++ "/" ++ g.name ++ "/issues/" ++ toString pr.number ++ "/labels") label path ∧
      g.Requests path (eventsOf (g.recorded.removeLabel pr label) s d) := by
  refine ⟨fun f => ?_, runsPath_injective, fun f f' hne => ?_, fun ref => ?_, fun pr label => ?_⟩
  · have hasks : eventsOf (g.recorded.page (.runs f) none) s d = g.trace (readRequest (g.runsPath f) d) s d :=
      page_asks g (.runs f) s d
    refine ⟨f.query, f.parameters?_query, runsPath_eq g f, hasks, ?_⟩
    rw [hasks]
    exact trace_requests g (readRequest (g.runsPath f) d) s d
  · rw [page_cache]
    exact (getJson_cache g (g.runsPath f) s d).2 _ (runsPath_injective.ne hne.symm)
  · refine ⟨g.pathTo ("/commits/" ++ Text.percentSegment ref), ?_, ?_⟩
    · have hpath : g.pathTo ("/commits/" ++ Text.percentSegment ref) =
          "/repos/" ++ g.owner ++ "/" ++ g.name ++ "/commits" ++ "/" ++ Text.percentSegment ref := by
        have hslash : "/commits/" = "/commits" ++ "/" := by decide
        rw [pathTo, hslash]
        simp only [String.append_assoc]
      rw [hpath]
      exact lastSegment _ ref
    · rw [commit_asks]
      exact trace_requests g (readRequest (g.pathTo ("/commits/" ++ Text.percentSegment ref)) d) s d
  · refine ⟨g.labelsPath pr ++ "/" ++ Text.percentSegment label, ?_, ?_⟩
    · have hpath : g.labelsPath pr =
          "/repos/" ++ g.owner ++ "/" ++ g.name ++ "/issues/" ++ toString pr.number ++ "/labels" := by
        simp only [labelsPath, pathTo, String.append_assoc]
      rw [hpath]
      exact lastSegment _ label
    · rw [removeLabel_asks]
      exact trace_requests g { method := .delete, path := g.labelsPath pr ++ "/" ++ Text.percentSegment label } s d

end Gateway

end RunSteward
