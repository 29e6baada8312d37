import RunSteward.Gateway.Writes
import RunSteward.Proofs.Gateway.Cache
import RunSteward.Proofs.Gateway.Trace

/-!
# Legible replies

Callers recover from refusals by the host, but not from faults. A page is fetched without a fault exactly if every
reply to its request is legible (`page_legible`): the pause that a used-up rate limit asks for has no ornamental
digits, the next page that a reply with a payload names is found at a well-formed URL, and what is read of the body
stays within the limits of the reader. No other text, in whatever part of a reply, leads to a fault.
-/

namespace RunSteward

open Act

variable {σ : Type}

/-! ## What can be read in a reply -/

/-- A header that names a next page at a URL that cannot be read. -/
def Link.Broken (header : Option String) : Prop :=
  ∃ url, search? (header.getD "").toList = some url ∧ Url.read? url = none

theorem Link.next_told (header : Option String) :
    (∃ place, next header = .ok place ∧ ¬Broken header) ∨ (next header = .error .linkUnreadable ∧ Broken header) := by
  unfold next Broken
  rcases hsearch : search? (header.getD "").toList with _ | url
  · exact .inl ⟨none, rfl, by simp⟩
  · rcases hread : Url.read? url with _ | u
    · exact .inr ⟨by simp only [hread], url, rfl, hread⟩
    · exact .inl ⟨target? u, by simp only [hread], by simp [hread]⟩

namespace Exchange

/-- A reply that keeps to the limits in what is read of its body: the payload, or the reason for a refusal. -/
structure Bounded (x : Exchange) (nesting : Nat) : Prop where
  payload : x.Succeeded → x.status ≠ 304 → ∀ f, Json.read nesting x.body ≠ .error f
  reason : x.Final → ¬x.Succeeded → ∀ f, Refusal.explanation nesting x.body ≠ .error f

/-- A reply whose pause can be read if it asks for one, and so can its body and the link that goes with a payload. -/
structure Legible (x : Exchange) (nesting : Nat) : Prop where
  pause : x.Throttled → ¬Pause.Ornate x.headers
  bounded : x.Bounded nesting
  link : x.Succeeded → x.status ≠ 304 → (∃ payload, Json.read nesting x.body = .ok (some payload)) →
    ¬Link.Broken (x.headers.value? "link")

end Exchange

theorem Resource.reading_told (R : Resource) (nesting : Nat) (path : String) :
    (∃ r, R.reading nesting path = Except.mapError Failure.host r ∧ (∀ f, Json.read nesting R.body ≠ .error f) ∧
        ((∃ payload, Json.read nesting R.body = .ok (some payload)) → ¬Link.Broken R.link)) ∨
      (R.reading nesting path = .error (.fault .linkUnreadable) ∧
        (∃ payload, Json.read nesting R.body = .ok (some payload)) ∧ Link.Broken R.link) ∨
      ∃ f, R.reading nesting path = .error (.fault f) ∧ Json.read nesting R.body = .error f := by
  unfold reading
  rcases Json.read nesting R.body with f | _ | payload
  · exact .inr (.inr ⟨f, rfl, rfl⟩)
  · exact .inl ⟨.error _, rfl, by simp, by simp⟩
  · rcases Link.next_told R.link with ⟨place, hnext, hsound⟩ | ⟨hnext, hbroken⟩
    · exact .inl ⟨.ok (payload, place), by simp only [hnext]; rfl, by simp, fun _ => hsound⟩
    · exact .inr (.inl ⟨by simp only [hnext], ⟨payload, rfl⟩, hbroken⟩)

/-- Work that breaks off over no fault ends with a result or a refusal. -/
theorem ended_iff {α : Type} {result : Except Failure α} :
    ((∃ a, result = .ok a) ∨ ∃ error, result = .error (.host error)) ↔ ∀ f, result ≠ .error (.fault f) := by
  rcases result with (error | f) | a <;> simp

/-! ## Pages -/

namespace Gateway

variable {g : Gateway σ} {l : Listing} {cursor : Option Cursor} {s : Scope} {d d' : Desk (Session σ)}

/-- The request of a page, given what is remembered. -/
def pageRequest (g : Gateway σ) (l : Listing) (cursor : Option Cursor) (c : ReplyCache) : Request :=
  let path := cursor.getD (g.pathTo l.path)
  Request.reading path ((c.reply? path).map TaggedReply.etag)

theorem page_of_reading {r : Except HostError (Json × Option Cursor)}
    (h : g.getJson (cursor.getD (g.pathTo l.path)) s d = (r.mapError Failure.host, d')) :
    ∃ r' : Except HostError (Page l.Item), (g.page l cursor s d).1 = r'.mapError Failure.host := by
  unfold page
  rcases r with error | ⟨payload, next⟩
  · rw [bind_of_error _ h]
    exact ⟨.error error, rfl⟩
  · rw [bind_of_ok _ h]
    dsimp only
    rcases l.read payload with error | items
    · exact ⟨.error error, rfl⟩
    · exact ⟨.ok ⟨items, next⟩, rfl⟩

theorem page_of_reply {x : Exchange}
    (hrequest : g.request (g.pageRequest l cursor d.world.cache) s d = (.ok x, d')) :
    (∃ r : Except HostError (Page l.Item), (g.page l cursor s d).1 = r.mapError Failure.host ∧
        (x.status ≠ 304 → (∀ f, Json.read g.nesting x.body ≠ .error f) ∧
          ((∃ payload, Json.read g.nesting x.body = .ok (some payload)) → ¬Link.Broken (x.headers.value? "link")))) ∨
      ((g.page l cursor s d).1 = .error (.fault .linkUnreadable) ∧ x.status ≠ 304 ∧
        (∃ payload, Json.read g.nesting x.body = .ok (some payload)) ∧ Link.Broken (x.headers.value? "link")) ∨
      ∃ f, (g.page l cursor s d).1 = .error (.fault f) ∧ x.status ≠ 304 ∧ Json.read g.nesting x.body = .error f := by
  have hgetJson := (getJson_apply (g := g) (cursor.getD (g.pathTo l.path)) s d).trans (bind_of_ok _ hrequest)
  unfold takeReply at hgetJson
  by_cases hstatus : x.status = 304
  · rw [if_pos hstatus] at hgetJson
    have hread : ∃ r, g.getJson (cursor.getD (g.pathTo l.path)) s d = (Except.mapError Failure.host r, d') := by
      rw [hgetJson]
      rcases d.world.cache.reply? _ with _ | known
      · exact ⟨.error _, rfl⟩
      · exact ⟨.ok (known.payload, known.next), rfl⟩
    obtain ⟨r, hr⟩ := hread
    obtain ⟨r', hpage⟩ := page_of_reading hr
    exact .inl ⟨r', hpage, fun hother => absurd hstatus hother⟩
  · rw [if_neg hstatus, takeFresh_apply] at hgetJson
    rcases (carried x).reading_told g.nesting (cursor.getD (g.pathTo l.path)) with
      ⟨r, hr, hbody, hsound⟩ | ⟨hr, hpayload, hbroken⟩ | ⟨f, hr, hbody⟩ <;> rw [hr] at hgetJson
    · obtain ⟨r', hpage⟩ := page_of_reading hgetJson
      exact .inl ⟨r', hpage, fun _ => ⟨hbody, hsound⟩⟩
    · exact .inr (.inl ⟨by rw [page, bind_of_error _ hgetJson], hstatus, hpayload, hbroken⟩)
    · exact .inr (.inr ⟨f, by rw [page, bind_of_error _ hgetJson], hstatus, hbody⟩)

theorem illegible_of_breaks {e : CommandEnd} {f : Fault} {nesting : Nat} (h : e.Breaks nesting f) :
    ∃ x, e.reply? = some x ∧ ¬x.Legible nesting ∧
      (f = .pauseUnreadable ∨ (Json.Limit f ∧ ¬x.Bounded nesting)) := by
  rcases h with ⟨rfl, x, hreply, hthrottled, hornate⟩ | ⟨x, hreply, hfinal, hx, hbody⟩
  · exact ⟨x, hreply, fun hlegible => hlegible.pause hthrottled hornate, .inl rfl⟩
  · have hunbounded : ¬x.Bounded nesting := fun hbounded => hbounded.reason hfinal hx f hbody
    exact ⟨x, hreply, fun hlegible => hunbounded hlegible.bounded, .inr ⟨Refusal.explanation_fault hbody, hunbounded⟩⟩

theorem legible_of_unbroken {e : CommandEnd} {x : Exchange} {nesting : Nat} (h : ∀ f, ¬e.Breaks nesting f)
    (hreply : e.reply? = some x)
    (hbody : x.Succeeded → x.status ≠ 304 → (∀ f, Json.read nesting x.body ≠ .error f) ∧
      ((∃ payload, Json.read nesting x.body = .ok (some payload)) → ¬Link.Broken (x.headers.value? "link"))) :
    x.Legible nesting where
  pause hthrottled hornate := h .pauseUnreadable (.inl ⟨rfl, x, hreply, hthrottled, hornate⟩)
  bounded := ⟨fun hx hstatus => (hbody hx hstatus).1, fun hfinal hx f hf => h f (.inr ⟨x, hreply, hfinal, hx, hf⟩)⟩
  link hx hstatus := (hbody hx hstatus).2

/-- **Pages and refusals.** With one to 1024 attempts, and whatever is printed for them, fetching a page of a listing
ends with the page or with a refusal by the host exactly if every reply that was printed is legible. Otherwise it
breaks off over the pause, over the link, or over a body that exceeds the limits, and over nothing else. -/
theorem page_legible (g : Gateway σ) (l : Listing) (cursor : Option Cursor) (hfirst : 1 ≤ g.maxAttempts)
    (hmost : g.maxAttempts ≤ 1024) (s : Scope) (d : Desk (Session σ)) :
    (((∃ page, (g.page l cursor s d).1 = .ok page) ∨ ∃ error, (g.page l cursor s d).1 = .error (.host error)) ↔
        ∀ e x, .ran ((g.pageRequest l cursor d.world.cache).command g.timeLimit) e ∈
          g.trace (g.pageRequest l cursor d.world.cache) s d → e.reply? = some x → x.Legible g.nesting) ∧
      ∀ f, (g.page l cursor s d).1 = .error (.fault f) → f = .pauseUnreadable ∨ f = .linkUnreadable ∨
        (Json.Limit f ∧ ∃ e x, .ran ((g.pageRequest l cursor d.world.cache).command g.timeLimit) e ∈
          g.trace (g.pageRequest l cursor d.world.cache) s d ∧ e.reply? = some x ∧ ¬x.Bounded g.nesting) := by
  have htold := g.trace_told (g.pageRequest l cursor d.world.cache) s d
  generalize g.trace (g.pageRequest l cursor d.world.cache) s d = events at htold ⊢
  have hgetJson := getJson_apply (g := g) (cursor.getD (g.pathTo l.path)) s d
  rw [ended_iff]
  rcases hrequest : g.request (g.pageRequest l cursor d.world.cache) s d with ⟨failure | x, d'⟩ <;>
    rw [hrequest] at htold
  · -- no attempt succeeded, so only the pauses and the reasons matter
    have hpage : (g.page l cursor s d).1 = .error failure := by
      rw [page, bind_of_error _ (hgetJson.trans (bind_of_error _ hrequest))]
    rw [hpage]
    cases failure with
    | host error =>
      refine ⟨⟨fun _ e x hmem hreply => ?_, by simp⟩, by simp⟩
      refine legible_of_unbroken (fun f hbreaks => ?_) hreply fun hsucceeded => ?_
      · cases (htold.broken f hbreaks.ofReply).mpr ⟨e, hmem, hbreaks⟩
      · cases (htold.accepted x).mpr ⟨e, hmem, hreply, hsucceeded⟩
    | fault f =>
      obtain ⟨e, hmem, hbreaks⟩ := (htold.broken f (htold.fault hfirst hmost f rfl)).mp rfl
      obtain ⟨x, hreply, hillegible, hfault⟩ := illegible_of_breaks hbreaks
      refine ⟨⟨fun hnone => absurd rfl (hnone f), fun hlegible => absurd (hlegible e x hmem hreply) hillegible⟩, ?_⟩
      rintro _ ⟨⟩
      rcases hfault with rfl | ⟨hlimit, hunbounded⟩
      · exact .inl rfl
      · exact .inr (.inr ⟨hlimit, e, x, hmem, hreply, hunbounded⟩)
  · -- one attempt succeeded, and the request did not break off before it
    obtain ⟨e, hmem, hreply, hsucceeded⟩ := (htold.accepted x).mp rfl
    rcases page_of_reply hrequest with ⟨r, hpage, hsound⟩ | ⟨hpage, hstatus, hpayload, hbroken⟩ | ⟨f, hpage, hstatus, hbody⟩
    · have hnone : ∀ f, (g.page l cursor s d).1 ≠ .error (.fault f) := by
        intro f
        rw [hpage]
        cases r <;> simp [Except.mapError]
      refine ⟨⟨fun _ e' y hmem' hreply' => ?_, fun _ => hnone⟩, fun f hf => absurd hf (hnone f)⟩
      refine legible_of_unbroken (fun f hbreaks => ?_) hreply' fun hy => ?_
      · cases (htold.broken f hbreaks.ofReply).mpr ⟨e', hmem', hbreaks⟩
      · obtain rfl := Except.ok.inj ((htold.accepted y).mpr ⟨e', hmem', hreply', hy⟩)
        exact hsound
    · rw [hpage]
      refine ⟨⟨fun hnone => absurd rfl (hnone _), fun hlegible => ?_⟩, by simp⟩
      exact absurd hbroken ((hlegible e x hmem hreply).link hsucceeded hstatus hpayload)
    · rw [hpage]
      have hunbounded : ¬x.Bounded g.nesting := fun hbounded => hbounded.payload hsucceeded hstatus f hbody
      refine ⟨⟨fun hnone => absurd rfl (hnone _), fun hlegible => absurd (hlegible e x hmem hreply).bounded hunbounded⟩, ?_⟩
      rintro _ ⟨⟩
      exact .inr (.inr ⟨Json.read_fault hbody, e, x, hmem, hreply, hunbounded⟩)

/-- A gateway whose commands all print the same. -/
def printing (text : String) : Gateway Unit where
  station := { run := fun _ w => (.exited 0 text "", w), pause := fun _ w => w, now := fun _ => default }
  owner := "o"
  name := "r"

theorem request_printing {text : String} {x : Exchange} (hread : Exchange.read text = .ok x) (hx : x.Succeeded)
    (r : Request) (d : Desk (Session Unit)) : ((printing text).request r {} d).1 = .ok x := by
  have hattempts : (printing text).maxAttempts = 3 := rfl
  have hbackoff : Pause.backoff ((printing text).maxAttempts - (2 : Nat)) = .ok _ :=
    Pause.backoff_of_le (by omega) (by omega)
  have hrun : (printing text).station.run (r.command (printing text).timeLimit) d.world.world =
      (.exited 0 text "", d.world.world) := rfl
  have houtput : (CommandEnd.output? (.exited 0 text "")).map Exchange.read = some (.ok x) := congrArg some hread
  obtain ⟨log, hstep⟩ := attemptFrom_succ_apply (s := {}) none hbackoff hrun
  rw [Request.judge_of_success _ houtput (Exchange.isSuccess_iff.mpr hx)] at hstep
  exact congrArg Prod.fst hstep

def linkedText : String :=
  "HTTP/2.0 200 OK\nLink: <https://api.github.com/repos/o/r/branches?page=2>; rel=\"next\"\n\n[]"

theorem page_legible_linked :
    (∀ e x, .ran (((printing linkedText).pageRequest .branches none []).command (printing linkedText).timeLimit) e ∈
        (printing linkedText).trace ((printing linkedText).pageRequest .branches none []) {} ⟨⟨(), []⟩, #[]⟩ →
      e.reply? = some x → x.Legible (printing linkedText).nesting) ∧
    ((∃ page, ((printing linkedText).page .branches none {} ⟨⟨(), []⟩, #[]⟩).1 = .ok page) ∨
      ∃ error, ((printing linkedText).page .branches none {} ⟨⟨(), []⟩, #[]⟩).1 = .error (.host error)) := by
  have hlegible : ∀ e x,
      .ran (((printing linkedText).pageRequest .branches none []).command (printing linkedText).timeLimit) e ∈
        (printing linkedText).trace ((printing linkedText).pageRequest .branches none []) {} ⟨⟨(), []⟩, #[]⟩ →
      e.reply? = some x → x.Legible (printing linkedText).nesting := by
    intro e x he hreply
    have hended := List.mem_map_of_mem (f := ended?) he
    have hends : ((printing linkedText).trace ((printing linkedText).pageRequest .branches none []) {}
        ⟨⟨(), []⟩, #[]⟩).map ended? = [some (.exited 0 linkedText "")] := by
      decide +kernel
    rw [hends] at hended
    simp only [ended?, List.mem_singleton, Option.some.injEq] at hended
    subst hended
    have hread : CommandEnd.reply? (.exited 0 linkedText "") = some ⟨200,
        [("link", "<https://api.github.com/repos/o/r/branches?page=2>; rel=\"next\"")], "[]"⟩ := by
      decide +kernel
    obtain rfl := Option.some.inj (hread.symm.trans hreply)
    have hbody : Json.read (printing linkedText).nesting "[]" = .ok (some (.array [])) := by rfl
    have hbounded : Exchange.Bounded ⟨200, [("link", "<https://api.github.com/repos/o/r/branches?page=2>; rel=\"next\"")],
        "[]"⟩ (printing linkedText).nesting :=
      ⟨fun _ _ f => by rw [hbody]; simp, fun _ hx => absurd (.inl (by decide)) hx⟩
    refine ⟨fun hthrottled => absurd hthrottled (by decide), hbounded, fun _ _ _ hbroken => ?_⟩
    obtain ⟨url, hurl, hunread⟩ := hbroken
    have hfound : Link.search? "<https://api.github.com/repos/o/r/branches?page=2>; rel=\"next\"".toList =
        some "https://api.github.com/repos/o/r/branches?page=2".toList := by
      decide +kernel
    obtain rfl := Option.some.inj (hfound.symm.trans hurl)
    revert hunread
    decide +kernel
  exact ⟨hlegible, ((page_legible _ .branches none (by decide) (by decide) {} ⟨⟨(), []⟩, #[]⟩).1).mpr hlegible⟩

/-- The fault that work broke off over. -/
def fault? {α : Type} : Except Failure α → Option Fault
  | .error (.fault f) => some f
  | _ => none

theorem eq_of_fault? {α : Type} {result : Except Failure α} {f : Fault} (h : fault? result = some f) :
    result = .error (.fault f) := by
  unfold fault? at h
  split at h
  · rw [Option.some.inj h]
  · cases h

/-- Neither a page nor a refusal: a link to a host in open brackets, and a pause of two seconds in a raised digit. -/
theorem page_breaks_off :
    ((printing "HTTP/2.0 200 OK\nLink: <http://[>; rel=\"next\"\n\n[]").page .branches none {} ⟨⟨(), []⟩, #[]⟩).1 =
        .error (.fault .linkUnreadable) ∧
      ((printing "HTTP/2.0 429 Too Many Requests\nRetry-After: ²\n\n").page .branches none {} ⟨⟨(), []⟩, #[]⟩).1 =
        .error (.fault .pauseUnreadable) :=
  ⟨eq_of_fault? (by decide +kernel), eq_of_fault? (by decide +kernel)⟩

end Gateway

end RunSteward
