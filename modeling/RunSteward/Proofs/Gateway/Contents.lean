import RunSteward.Gateway.Reads
import RunSteward.Proofs.Gateway.HeadAndBody
import RunSteward.Proofs.Gateway.Legibility
import RunSteward.Proofs.Json.TextObject
import RunSteward.Proofs.Text.Base64
import RunSteward.Proofs.Text.Percent

/-!
# Contents of files

A payload that was delivered with status 200 decides alone how reading a file ends, whatever the scope and the log
(`Delivered.fileText`). A text in base64 is read as it is, wherever its content is wrapped (`contentsOf_wraps`). Work
breaks off exactly where characters outside ASCII are passed off as base64 (`contentsOf_told`).
-/

namespace RunSteward

open Act

variable {σ α : Type}

/-! ## Requests look at the world alone -/

theorem Act.worldly_orHalt (r : Except Fault α) : Worldly (orHalt r : Act σ α) := by
  cases r with
  | error f => exact worldly_fail _
  | ok a => exact worldly_pure a

namespace Gateway

variable {g : Gateway σ}

theorem worldly_call (st : Station σ) (checked : Bool) (c : Command) :
    Worldly (Session.outside (st.call checked c)) := by
  intro s s' d d' h
  obtain ⟨log, hcall⟩ := call_apply st checked c s d
  obtain ⟨log', hcall'⟩ := call_apply st checked c s' d'
  rw [hcall, hcall', h]
  exact ⟨rfl, rfl⟩

theorem worldly_clock : Worldly g.clock := by
  intro s s' d d' h
  exact ⟨congrArg (fun w : Session σ => (Except.ok (g.station.now w.world) : Except Failure Stamp)) h, h⟩

theorem worldly_wait (st : Station σ) (n : Number) : Worldly (Session.outside (st.wait n)) := by
  intro s s' d d' h
  exact ⟨rfl, congrArg (fun w : Session σ => { w with world := st.pause n w.world }) h⟩

theorem worldly_giveUp (e : HostError) : Worldly (g.giveUp e) := by
  have hcheck : Worldly g.checkAuthentication := by
    refine (worldly_call _ _ _).bind fun answer => ?_
    split
    · exact worldly_fail _
    · exact worldly_pure _
  unfold giveUp
  by_cases hkind : e.kind ≠ .rateLimit
  · simp only [if_pos hkind]
    exact hcheck.bind fun _ => worldly_fail _
  · simp only [if_neg hkind]
    exact worldly_fail _

/-- By induction on the attempts that are left. -/
theorem worldly_attemptFrom (r : Request) (left : Nat) (error : Option HostError) :
    Worldly (g.attemptFrom r left error) := by
  induction left generalizing error with
  | zero =>
    cases error with
    | none => exact worldly_fail _
    | some e => exact worldly_giveUp e
  | succ left ih =>
    rw [attemptFrom]
    refine (worldly_orHalt _).bind fun backoff => (worldly_call _ _ _).bind fun output => ?_
    refine worldly_clock.bind fun now => (worldly_orHalt _).bind fun verdict => ?_
    cases verdict with
    | settled reply => exact worldly_pure reply
    | refused e => exact worldly_fail _
    | unsettled e pause =>
      refine (worldly_record _ _ _).bind fun _ => ?_
      by_cases hleft : 0 < left
      · simp only [if_pos hleft]
        exact (worldly_wait _ _).bind fun _ => ih (some e)
      · simp only [if_neg hleft]
        exact ih (some e)

theorem worldly_request (r : Request) : Worldly (g.request r) :=
  worldly_attemptFrom r _ none

end Gateway

/-! ## Payloads that were delivered -/

/-- A reply with status 200 that carries a payload, and no link that cannot be read. -/
structure Exchange.Carries (x : Exchange) (nesting : Nat) (payload : Json) : Prop where
  status : x.status = 200
  body : Json.read nesting x.body = .ok (some payload)
  link : ¬Link.Broken (x.headers.value? "link")

namespace Gateway

variable {g : Gateway σ} {path ref : String} {payload : Json} {d : Desk (Session σ)}

/-- The request that reads a path, given what is remembered. -/
def readRequest (path : String) (d : Desk (Session σ)) : Request :=
  Request.reading path ((d.world.cache.reply? path).map TaggedReply.etag)

/-- One of the attempts to read a path is answered by a reply that carries a payload. The scope only shows in the log. -/
def Delivered (g : Gateway σ) (path : String) (payload : Json) (d : Desk (Session σ)) : Prop :=
  ∃ s e x, .ran ((readRequest path d).command g.timeLimit) e ∈ g.trace (readRequest path d) s d ∧
    e.reply? = some x ∧ x.Carries g.nesting payload

theorem Delivered.getJson (h : g.Delivered path payload d) (s : Scope) :
    ∃ next d', g.getJson path s d = (.ok (payload, next), d') := by
  obtain ⟨s', e, x, hmem, hreply, hstatus, hbody, hlink⟩ := h
  have hsucceeded : x.Succeeded := .inl (by omega)
  have haccepted := ((g.trace_told (readRequest path d) s' d).accepted x).mpr ⟨e, hmem, hreply, hsucceeded⟩
  have hresult := (worldly_request (g := g) (readRequest path d) s s' d d rfl).1.trans haccepted
  rcases hrequest : g.request (readRequest path d) s d with ⟨result, d₁⟩
  rw [hrequest] at hresult
  obtain rfl : result = .ok x := hresult
  rcases Link.next_told (x.headers.value? "link") with ⟨next, hnext, -⟩ | ⟨-, hbroken⟩
  · have hreading : (carried x).reading g.nesting path = .ok (payload, next) := by
      simp [Resource.reading, carried, hbody, hnext]
    have hend := (getJson_apply path s d).trans (bind_of_ok _ hrequest)
    unfold takeReply at hend
    rw [if_neg (by omega), takeFresh_apply, hreading] at hend
    exact ⟨next, _, hend⟩
  · exact absurd hbroken hlink

/-! ## Contents -/

/-- The path that the contents of a file are read from. -/
def contentsPath (g : Gateway σ) (path ref : String) : String :=
  g.pathTo ("/contents/" ++ Text.percentPath (relativePath path) ++ "?" ++ Text.queryLine [("ref", ref)])

/-- What the payload of a file comes to. -/
def contentsOf (path : String) (payload : Json) : Except Failure String :=
  match Payload.object "contents" .ok payload with
  | .error e => .error (.host e)
  | .ok members =>
    let encoding := Payload.text (Json.get members "encoding")
    if encoding = "base64" then decodeContent path (Payload.text (Json.get members "content"))
    else .error (.host ⟨.general, "Unsupported content encoding for " ++ path ++ ": " ++ Text.quoted encoding⟩)

theorem Delivered.fileText (h : g.Delivered (g.contentsPath path ref) payload d) (s : Scope) :
    ∃ d', g.fileText path ref s d = (contentsOf path payload, d') := by
  obtain ⟨next, d₁, hjson⟩ := h.getJson s
  have hobject : g.getObject "contents" ("/contents/" ++ Text.percentPath (relativePath path) ++ "?" ++
      Text.queryLine [("ref", ref)]) s d = (Payload.object "contents" .ok payload |>.mapError .host, d₁) := by
    rw [contentsPath] at hjson
    rw [getObject, bind_of_ok _ hjson]
    dsimp only
    cases Payload.object "contents" Except.ok payload <;> rfl
  unfold contentsOf Gateway.fileText
  rcases hmembers : Payload.object "contents" Except.ok payload with e | members <;> rw [hmembers] at hobject
  · exact ⟨d₁, bind_of_error _ hobject⟩
  · rw [bind_of_ok _ hobject]
    dsimp only
    by_cases hencoding : Payload.text (Json.get members "encoding") = "base64"
    · simp only [hencoding, ne_eq, not_true_eq_false, if_false, if_true]
      rcases decodeContent path (Payload.text (Json.get members "content")) with f | text
      · exact ⟨d₁, rfl⟩
      · exact ⟨_, rfl⟩
    · simp only [hencoding, ne_eq, not_false_eq_true, if_true, if_false]
      exact ⟨d₁, rfl⟩

theorem contentsOf_object {members : List (String × Json)}
    (hencoding : Payload.text (Json.get members "encoding") = "base64") :
    contentsOf path (.object members) = decodeContent path (Payload.text (Json.get members "content")) := by
  simp only [contentsOf, Payload.object, if_pos hencoding]

theorem contentsOf_wraps {members : List (String × Json)} {content text : String}
    (hencoding : Json.get members "encoding" = .string "base64")
    (hcontent : Json.get members "content" = .string content)
    (h : Text.Base64.Wraps content text.toUTF8.data.toList) : contentsOf path (.object members) = .ok text := by
  have hascii : isAscii content = true := List.all_eq_true.mpr fun c hc => decide_eq_true (h.ascii c hc)
  have htext : String.fromUTF8? ⟨text.toUTF8.data.toList.toArray⟩ = some text := by
    rw [Array.toArray_toList]
    exact Text.fromUTF8?_toUTF8 text
  rw [contentsOf_object (by rw [hencoding]; rfl), hcontent]
  change decodeContent path content = .ok text
  rw [decodeContent, if_pos hascii, h.decode, Option.bind_some, htext]

/-- A payload that passes off characters outside ASCII as base64. -/
def Foreign (payload : Json) : Prop :=
  ∃ members, payload = .object members ∧ Payload.text (Json.get members "encoding") = "base64" ∧
    isAscii (Payload.text (Json.get members "content")) = false

theorem decodeContent_told (path content : String) :
    (isAscii content = false ∧ decodeContent path content = .error (.fault .contentNotAscii)) ∨
      (isAscii content = true ∧ ∃ r, decodeContent path content = Except.mapError Failure.host r) := by
  unfold decodeContent
  cases hascii : isAscii content with
  | false => exact .inl ⟨rfl, rfl⟩
  | true =>
    refine .inr ⟨rfl, ?_⟩
    rw [if_pos rfl]
    split
    · exact ⟨.ok _, rfl⟩
    · exact ⟨.error _, rfl⟩

/-- A foreign payload breaks reading off, and any other one is read or refused. -/
theorem contentsOf_told (path : String) (payload : Json) :
    (Foreign payload ∧ contentsOf path payload = .error (.fault .contentNotAscii)) ∨
      (¬Foreign payload ∧ ∃ r, contentsOf path payload = Except.mapError Failure.host r) := by
  cases payload with
  | object members =>
    by_cases hencoding : Payload.text (Json.get members "encoding") = "base64"
    · rw [contentsOf_object hencoding]
      rcases decodeContent_told path (Payload.text (Json.get members "content")) with
        ⟨hforeign, hend⟩ | ⟨hascii, hend⟩
      · exact .inl ⟨⟨members, rfl, hencoding, hforeign⟩, hend⟩
      · refine .inr ⟨?_, hend⟩
        rintro ⟨_, hmembers, -, hforeign⟩
        obtain rfl := Json.object.inj hmembers
        exact absurd hascii (by simp [hforeign])
    · have hrefused : ∃ e, contentsOf path (.object members) = .error (.host e) := by
        simp only [contentsOf, Payload.object, if_neg hencoding]
        exact ⟨_, rfl⟩
      obtain ⟨e, he⟩ := hrefused
      refine .inr ⟨?_, .error e, he⟩
      rintro ⟨_, hmembers, hencoding', -⟩
      obtain rfl := Json.object.inj hmembers
      exact hencoding hencoding'
  | _ => exact .inr ⟨fun ⟨_, hmembers, _⟩ => (nomatch hmembers), .error _, rfl⟩

/-! ## Contents in print -/

/-- The head of a reply that says no more than that a request was done. -/
def doneHead : ReplyHead where
  status := { content := "HTTP/2.0 200 OK".toList, lineEnd := .lf }
  headers := []
  blankEnd := .lf

/-- What is printed for a reply that carries an object of texts. -/
def printedTexts (members : List (String × String)) : String :=
  String.ofList (([] ++ [doneHead]).flatMap ReplyHead.text ++ (Json.write (.object (Json.texts members))).toList)

/-- A print of an object of texts carries the object, for it is one line that looks like no status line. -/
theorem printedTexts_carries (members : List (String × String)) (hnames : (members.map Prod.fst).Nodup) (depth : Nat) :
    ∃ x, Exchange.read (printedTexts members) = .ok x ∧ x.Carries (depth + 1) (.object (Json.texts members)) := by
  have hvisible : ∀ c ∈ (Json.write (.object (Json.texts members))).toList, 0x20 ≤ c.toNat ∧ c.toNat ≤ 0x7e :=
    fun _ => Json.write_texts_visible
  have hread := Json.read_write_texts members hnames depth
  have hbrace := Json.toList_write_texts members
  generalize hbody : (Json.write (.object (Json.texts members))).toList = body at hvisible hbrace
  have hcr : '\r' ∉ body := fun hmem => absurd (hvisible _ hmem).1 (by decide)
  have hlf : '\n' ∉ body := fun hmem => absurd (hvisible _ hmem).1 (by decide)
  have hline : Text.unifyLineEnds body = body := by
    have hends := Text.unifyLineEnds_append hcr []
    rwa [List.append_nil, Text.unifyLineEnds, List.append_nil] at hends
  have hplain : ¬Exchange.HoldsStatusLine body := by
    rintro ⟨l, hl, hstatus⟩
    rw [hline, Text.fields_of_not_mem hlf, List.mem_singleton] at hl
    rw [hl, hbrace] at hstatus
    cases hstatus
  have hhead : Exchange.read (String.ofList (([] ++ [doneHead]).flatMap ReplyHead.text)) = .ok ⟨200, [], ""⟩ := by
    decide +kernel
  refine ⟨⟨200, [], String.ofList body⟩, ?_, rfl, ?_, ?_⟩
  · rw [printedTexts, hbody, (Exchange.read_behind_heads [] doneHead body).1 hplain, hhead, hline]
    rfl
  · rw [← hbody, String.ofList_toList]
    exact hread
  · rintro ⟨url, hurl, -⟩
    cases hurl

theorem printing_delivers {text : String} {x : Exchange} (hread : Exchange.read text = .ok x)
    (hx : x.Carries (printing text).nesting payload) (path : String) (d : Desk (Session Unit)) :
    (printing text).Delivered path payload d := by
  have hstatus := hx.status
  have hresult := request_printing hread (.inl (by omega)) (readRequest path d) d
  obtain ⟨e, hmem, hreply, -⟩ := (((printing text).trace_told (readRequest path d) {} d).accepted x).mp hresult
  exact ⟨{}, e, x, hmem, hreply, hx⟩

end Gateway

end RunSteward
