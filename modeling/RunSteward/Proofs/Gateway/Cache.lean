import RunSteward.Gateway.Transfer
import RunSteward.Proofs.Gateway.Serving

/-!
# Reads from memory

What the gateway remembers of a path is a resource that the path once had, with its tag (`Faithful`). A tag belongs to
one body and one link, so a reply that nothing has changed is as good as the resource itself (`Recalls.congr`), and
a session that remembers reads what a session reads that never does (`getJson_alike`). By induction this holds for
any number of reads, each of which may depend on what was read before (`readings_transparent`).
-/

namespace RunSteward

open Act

variable {σ : Type}

/-! ## What requests keep -/

/-- The failures of requests: a refusal tells of the request, or that nobody is logged in. -/
def Failure.OfRequest : Failure → Prop
  | .host e => e.message = "GitHub CLI is not authenticated" ∨ ∃ rest, e.message = "GitHub API " ++ rest
  | .fault _ => True

def Request.Verdict.error? : Request.Verdict → Option HostError
  | .settled _ => none
  | .refused e => some e
  | .unsettled e _ => some e

theorem Request.judge_error {r : Request} {nesting : Nat} {attempt : Int} {backoff : Binary64} {now : Number}
    {raw : Option String} {verdict : Verdict} {e : HostError}
    (h : r.judge nesting attempt backoff now raw = .ok verdict) (he : verdict.error? = some e) :
    ∃ rest, e.message = "GitHub API " ++ rest := by
  unfold judge judgeReply at h
  rcases hraw : raw.map Exchange.read with _ | error | reply <;> rw [hraw] at h
  · obtain rfl := Except.ok.inj h
    obtain rfl := Option.some.inj he
    exact ⟨r.method.name ++ " timed out for path " ++ r.path, by simp [String.append_assoc]⟩
  · obtain rfl := Except.ok.inj h
    obtain rfl := Option.some.inj he
    exact ⟨r.method.name ++ " failed for path " ++ r.path ++ ": " ++ error.message, by simp [String.append_assoc]⟩
  · dsimp only at h
    split at h
    · obtain rfl := Except.ok.inj h
      cases he
    · split at h
      · rcases hpause : Pause.rateLimit reply.headers attempt now with f | pause <;> rw [hpause] at h
        · cases h
        · obtain rfl := Except.ok.inj h
          obtain rfl := Option.some.inj he
          refine ⟨"rate limit exhausted for " ++ r.method.name ++ " " ++ r.path, ?_⟩
          have hsplit : "GitHub API rate limit exhausted for " = "GitHub API " ++ "rate limit exhausted for " := by
            decide
          dsimp only
          rw [hsplit]
          simp only [String.append_assoc]
      · split at h
        · obtain rfl := Except.ok.inj h
          obtain rfl := Option.some.inj he
          exact ⟨r.method.name ++ " " ++ r.path ++ " failed with status " ++ toString reply.status,
            by simp [String.append_assoc]⟩
        · unfold Refusal.error at h
          rcases htext : Refusal.explanation nesting reply.body with f | text <;> rw [htext] at h
          · cases h
          · obtain rfl := Except.ok.inj h
            obtain rfl := Option.some.inj he
            exact ⟨r.method.name ++ " " ++ r.path ++ " failed with status " ++ toString reply.status ++ ": " ++ text,
              by simp [String.append_assoc]⟩

namespace Gateway

variable {g : Gateway σ} {c : ReplyCache}

theorem orHalt_keeps {P : Session σ → Prop} {α : Type} (r : Except Fault α) :
    Keeps P Failure.OfRequest (orHalt r : Act (Session σ) α) := by
  cases r with
  | error f => exact keeps_fail trivial
  | ok a => exact keeps_pure a

section Requests

/-! What all commands and pauses of a station keep, requests keep: between them only the log is written. -/

variable {P : Session σ → Prop}
  (hcall : ∀ checked command, Keeps P Failure.OfRequest (Session.outside (g.station.call checked command)))
include hcall

theorem giveUp_keeps {e : HostError} (he : (Failure.host e).OfRequest) : Keeps P Failure.OfRequest (g.giveUp e) := by
  have hcheck : Keeps P Failure.OfRequest g.checkAuthentication := by
    refine Keeps.bind (hcall _ _) fun answer => ?_
    split
    · exact keeps_fail (.inl rfl)
    · exact keeps_pure _
  unfold giveUp
  split
  · exact Keeps.bind hcheck fun _ => keeps_fail he
  · exact keeps_fail he

variable (hwait : ∀ n, Keeps P Failure.OfRequest (Session.outside (g.station.wait n)))
include hwait

theorem attemptFrom_keeps (r : Request) (left : Nat) (error : Option HostError)
    (he : ∀ e ∈ error, (Failure.host e).OfRequest) : Keeps P Failure.OfRequest (g.attemptFrom r left error) := by
  induction left generalizing error with
  | zero =>
    cases error with
    | none => exact keeps_fail trivial
    | some e => exact giveUp_keeps hcall (he e rfl)
  | succ left ih =>
    rw [attemptFrom]
    refine Keeps.bind (orHalt_keeps _) fun backoff => ?_
    refine Keeps.bind (hcall _ _) fun output => ?_
    refine Keeps.bind (fun s d hd => ⟨hd, fun f hf => by cases hf⟩) fun now => ?_
    rcases hverdict : r.judge g.nesting (g.maxAttempts - left) backoff (seconds now) output.toOption with f | verdict
    · exact keeps_fail trivial
    · change Keeps P Failure.OfRequest (pure verdict >>= _)
      rw [pure_bind]
      -- the last error is kept for the end, so it must be one of the request as well
      have herror : ∀ e, verdict.error? = some e → (Failure.host e).OfRequest :=
        fun e he => .inr (Request.judge_error hverdict he)
      cases verdict with
      | settled reply => exact keeps_pure reply
      | refused e => exact keeps_fail (herror e rfl)
      | unsettled e pause =>
        refine Keeps.bind (keeps_record _ _ _) fun _ => ?_
        have hrest := ih (some e) herror
        by_cases hleft : 0 < left
        · simp only [if_pos hleft]
          exact Keeps.bind (hwait _) fun _ => hrest
        · simp only [if_neg hleft]
          exact hrest

theorem request_keeps (r : Request) : Keeps P Failure.OfRequest (g.request r) :=
  attemptFrom_keeps hcall hwait r _ none fun _ he => by cases he

end Requests

theorem request_keeps_cache (r : Request) : Keeps (fun w => w.cache = c) Failure.OfRequest (g.request r) := by
  refine request_keeps (fun checked command s d hd => ?_) (fun n s d hd => ⟨hd, fun f hf => by cases hf⟩) r
  obtain ⟨log, hcall⟩ := call_apply g.station checked command s d
  rw [hcall]
  exact ⟨hd, by simp⟩

end Gateway

/-! ## What a resource reads -/

namespace Resource

/-- What a session that remembers nothing reads off a resource. -/
def reading (R : Resource) (nesting : Nat) (path : String) : Except Failure (Json × Option Cursor) :=
  match Json.read nesting R.body with
  | .error f => .error (.fault f)
  | .ok none => .error (.host ⟨.transient, "GitHub returned malformed JSON for path " ++ path⟩)
  | .ok (some payload) =>
    match Link.next R.link with
    | .error f => .error (.fault f)
    | .ok next => .ok (payload, next)

def remembered (R : Resource) (nesting : Nat) (path : String) (cache : ReplyCache) : ReplyCache :=
  match R.reading nesting path, R.etag.filter fun tag => !tag.isEmpty with
  | .ok (payload, next), some tag => cache.remember path ⟨tag, payload, next⟩
  | _, _ => cache

variable {R R' : Resource} {nesting : Nat} {path : String} {cache : ReplyCache}

theorem remembered_of_error {f : Failure} (h : R.reading nesting path = .error f) :
    R.remembered nesting path cache = cache := by
  rw [remembered, h]

theorem reading_congr (hbody : R.body = R'.body) (hlink : R.link = R'.link) :
    R.reading nesting path = R'.reading nesting path := by
  rw [reading, reading, hbody, hlink]

end Resource

/-- A remembered reply that holds what a resource reads. -/
structure TaggedReply.Recalls (k : TaggedReply) (R : Resource) (nesting : Nat) (path : String) : Prop where
  etag : R.etag = some k.etag
  reading : R.reading nesting path = .ok (k.payload, k.next)

namespace ReplyCache

variable {c : ReplyCache} {path other : String} {k : TaggedReply}

theorem reply?_remember_self : (c.remember path k).reply? path = some k := by
  simp [remember, reply?]

theorem reply?_remember_of_ne (h : other ≠ path) : (c.remember path k).reply? other = c.reply? other := by
  have hforgotten : List.lookup other (c.filter fun e => e.1 != path) = List.lookup other c := by
    induction c with
    | nil => rfl
    | cons e c ih =>
      obtain ⟨name, reply⟩ := e
      by_cases hname : name = path
      · rw [List.filter_cons_of_neg (by simp [hname]), List.lookup_cons, ih]
        have hother : (other == name) = false := by simp [hname, h]
        rw [hother]
      · rw [List.filter_cons_of_pos (by simp [hname]), List.lookup_cons, List.lookup_cons, ih]
  have hother : (other == path) = false := by simp [h]
  rw [reply?, reply?, remember, List.lookup_cons, hother]
  exact hforgotten

end ReplyCache

namespace Resource

variable {R : Resource} {nesting : Nat} {path other : String} {c : ReplyCache} {k : TaggedReply}

/-- A memory of a path after a resource was read there is the one that was, or the resource itself. -/
theorem reply?_remembered (h : (R.remembered nesting path c).reply? other = some k) :
    c.reply? other = some k ∨ other = path ∧ k.Recalls R nesting path := by
  unfold remembered at h
  split at h
  · rename_i payload next tag hreading htag
    by_cases hother : other = path
    · right
      subst hother
      rw [ReplyCache.reply?_remember_self] at h
      obtain rfl := Option.some.inj h
      obtain ⟨hsome, -⟩ := Option.filter_eq_some_iff.mp htag
      exact ⟨rfl, hsome, hreading⟩
    · rw [ReplyCache.reply?_remember_of_ne hother] at h
      exact .inl h
  · exact .inl h

theorem reply?_remembered_of_ne (h : other ≠ path) :
    (R.remembered nesting path c).reply? other = c.reply? other := by
  unfold remembered
  split
  · exact ReplyCache.reply?_remember_of_ne h
  · rfl

end Resource

namespace Gateway

variable {g : Gateway σ} {resource : String → σ → Resource} {Same : σ → σ → Prop}

def carried (x : Exchange) : Resource :=
  ⟨x.body, x.headers.value? "link", x.headers.value? "etag"⟩

theorem takeFresh_apply (path : String) (x : Exchange) (s : Scope) (d : Desk (Session σ)) :
    g.takeFresh path x s d = ((carried x).reading g.nesting path,
      { d with world := { d.world with cache := (carried x).remembered g.nesting path d.world.cache } }) := by
  unfold takeFresh Resource.remembered Resource.reading carried
  dsimp only
  rcases Json.read g.nesting x.body with f | _ | payload
  · rfl
  · rfl
  · rw [bind_of_ok _ (show orHalt (.ok (some payload)) s d = (.ok (some payload), d) from rfl)]
    rcases Link.next (x.headers.value? "link") with f | next
    · rfl
    · dsimp only
      rw [bind_of_ok _ (show orHalt (.ok next) s d = (.ok next, d) from rfl)]
      generalize (x.headers.value? "etag").filter (fun tag => !tag.isEmpty) = kept
      cases kept with
      | none => rfl
      | some tag => rfl

/-- What is made of a reply to a read, given what was remembered. -/
def takeReply (g : Gateway σ) (path : String) (known : Option TaggedReply) (reply : Exchange) :
    Act (Session σ) (Json × Option Cursor) :=
  if reply.status = 304 then
    match known with
    | some k => pure (k.payload, k.next)
    | none => refuse ⟨.transient, "GitHub returned 304 for uncached path: " ++ path⟩
  else g.takeFresh path reply

theorem getJson_apply (path : String) (s : Scope) (d : Desk (Session σ)) :
    g.getJson path s d =
      (g.request (Request.reading path ((d.world.cache.reply? path).map TaggedReply.etag)) >>=
        g.takeReply path (d.world.cache.reply? path)) s d := by
  have hknown : Session.remembered path s d = (.ok (d.world.cache.reply? path), d) := rfl
  rw [getJson, bind_of_ok _ hknown]
  rfl

/-- Of all that is remembered, a read changes at most the reply of its own path, and nothing if it fails. -/
theorem getJson_cache (g : Gateway σ) (path : String) (s : Scope) (d : Desk (Session σ)) :
    (∀ f, (g.getJson path s d).1 = .error f → (g.getJson path s d).2.world.cache = d.world.cache) ∧
      ∀ other, other ≠ path → (g.getJson path s d).2.world.cache.reply? other = d.world.cache.reply? other := by
  rw [getJson_apply]
  generalize d.world.cache.reply? path = known
  obtain ⟨hcache, -⟩ := request_keeps_cache (g := g) (c := d.world.cache)
    (Request.reading path (known.map TaggedReply.etag)) s d rfl
  rcases hrequest : g.request (Request.reading path (known.map TaggedReply.etag)) s d with ⟨f | reply, d₁⟩ <;>
    rw [hrequest] at hcache
  · rw [bind_of_error _ hrequest]
    exact ⟨fun _ _ => hcache, fun other _ => by rw [hcache]⟩
  · rw [bind_of_ok _ hrequest]
    unfold takeReply
    split
    · cases known with
      | none => exact ⟨fun _ _ => hcache, fun other _ => congrArg (ReplyCache.reply? · other) hcache⟩
      | some k => exact ⟨fun _ _ => hcache, fun other _ => congrArg (ReplyCache.reply? · other) hcache⟩
    · rw [takeFresh_apply]
      dsimp only
      rw [hcache]
      exact ⟨fun f hf => Resource.remembered_of_error hf, fun other hother => Resource.reply?_remembered_of_ne hother⟩

end Gateway

/-! ## Sessions that remember and sessions that do not -/

/-- Each remembered reply holds what a resource of its path once read. -/
def ReplyCache.Faithful (nesting : Nat) (resource : String → σ → Resource) (Same : σ → σ → Prop)
    (c : ReplyCache) : Prop :=
  ∀ path k, c.reply? path = some k → ∃ w w', Same w w' ∧ k.Recalls (resource path w) nesting path

def Session.forget : Act (Session σ) Unit :=
  Act.outside fun s => ((), { s with cache := [] })

namespace Gateway

variable {g : Gateway σ} {resource : String → σ → Resource} {Same : σ → σ → Prop}

/-- A read of a gateway that remembers nothing. -/
def getJsonAfresh (g : Gateway σ) (path : String) : Act (Session σ) (Json × Option Cursor) := do
  Session.forget
  g.getJson path

/-- A session that remembers only what was there, beside one whose world is the same to the server. -/
def Abreast (nesting : Nat) (resource : String → σ → Resource) (Same : σ → σ → Prop)
    (d e : Desk (Session σ)) : Prop :=
  Same d.world.world e.world.world ∧ d.world.cache.Faithful nesting resource Same

/-- A reply that shows a resource is taken for what the resource reads. -/
theorem takeReply_of_shows {R : Resource} {path : String} {known : Option TaggedReply} {x : Exchange}
    (hshows : x.Shows R (known.map TaggedReply.etag))
    (hknown : ∀ k, known = some k → R.etag = some k.etag → k.Recalls R g.nesting path) (s : Scope)
    (d : Desk (Session σ)) :
    ∃ cache, g.takeReply path known x s d =
        (R.reading g.nesting path, { d with world := { d.world with cache := cache } }) ∧
      (cache = d.world.cache ∨ cache = R.remembered g.nesting path d.world.cache) := by
  cases hshows with
  | whole status body link tag =>
    have hcarried : carried x = R := by rw [carried, body, link, tag]
    refine ⟨_, ?_, .inr rfl⟩
    unfold takeReply
    rw [if_neg (by omega), takeFresh_apply, hcarried]
  | unchanged status tag named current =>
    obtain ⟨k, rfl, rfl⟩ := Option.map_eq_some_iff.mp named
    have hrecalls := hknown k rfl current
    refine ⟨d.world.cache, ?_, .inl rfl⟩
    unfold takeReply
    rw [if_pos status, hrecalls.reading]
    rfl

theorem faithful_remembered {nesting : Nat} {c : ReplyCache} (h : c.Faithful nesting resource Same) {w w' : σ}
    (hsame : Same w w')
    (path : String) : ((resource path w).remembered nesting path c).Faithful nesting resource Same := by
  intro other k hk
  rcases Resource.reply?_remembered hk with hold | ⟨rfl, hrecalls⟩
  · exact h other k hold
  · exact ⟨w, w', hsame, hrecalls⟩

variable (h : g.station.Serves g.timeLimit resource Same)
include h

/-- What a session reads, and what it goes on to remember, side by side with a session that starts afresh. -/
theorem getJson_cases (path : String) (s : Scope) {d e : Desk (Session σ)}
    (habreast : Abreast g.nesting resource Same d e) :
    (∃ f, f.OfRequest ∧ ∃ d' e', g.getJson path s d = (.error f, d') ∧ g.getJsonAfresh path s e = (.error f, e') ∧
        Abreast g.nesting resource Same d' e') ∨
      ∃ w w' d' e', Same w w' ∧ g.getJson path s d = ((resource path w).reading g.nesting path, d') ∧
        g.getJsonAfresh path s e = ((resource path w).reading g.nesting path, e') ∧
          Abreast g.nesting resource Same d' e' := by
  obtain ⟨hsame, hfaithful⟩ := habreast
  have hforget : Session.forget s e = (.ok (), { e with world := { e.world with cache := [] } }) := rfl
  have hafresh : g.getJsonAfresh path s e = (g.request (Request.reading path none) >>= g.takeReply path none) s
      { e with world := { e.world with cache := [] } } := by
    rw [getJsonAfresh, bind_of_ok _ hforget, getJson_apply]
    rfl
  rw [getJson_apply, hafresh]
  have hknown : ∀ k, d.world.cache.reply? path = some k → ∃ w w', Same w w' ∧
      k.Recalls (resource path w) g.nesting path :=
    hfaithful path
  generalize d.world.cache.reply? path = known at hknown ⊢
  have hagree := request_paired h path (known.map TaggedReply.etag) s d
    { e with world := { e.world with cache := [] } } ⟨hsame, rfl, rfl⟩
  have hkeeps := (request_keeps_cache (g := g) (c := d.world.cache)
    (Request.reading path (known.map TaggedReply.etag)) s d rfl).2
  rcases hx : g.request (Request.reading path (known.map TaggedReply.etag)) s d with ⟨x, d₁⟩
  rcases hy : g.request (Request.reading path none) s { e with world := { e.world with cache := [] } } with ⟨y, e₁⟩
  rw [hx, hy] at hagree
  rw [hx] at hkeeps
  cases hagree with
  | failure f hbeside =>
    obtain ⟨hsame', hcache, -⟩ := hbeside
    left
    refine ⟨f, hkeeps f rfl, d₁, e₁, bind_of_error _ hx, bind_of_error _ hy, hsame', ?_⟩
    rw [hcache]
    exact hfaithful
  | @result x y _ _ hres =>
    obtain ⟨⟨w, w', hw, hshows, hplain⟩, hsame', hcache, -⟩ := hres
    -- the remembered tag was the tag of the path at some moment; if it is so again, then body and link are, too
    have hrecalls : ∀ k, known = some k → (resource path w).etag = some k.etag →
        k.Recalls (resource path w) g.nesting path := by
      intro k hk htag
      obtain ⟨v, v', hv, holds⟩ := hknown k hk
      obtain ⟨hbody, hlink⟩ := h.tagged path w w' v v' hw hv k.etag htag holds.etag
      exact ⟨htag, (Resource.reading_congr hbody hlink).trans holds.reading⟩
    obtain ⟨cache, hread, hcases⟩ := takeReply_of_shows hshows hrecalls s d₁
    have hnone : ∀ k : TaggedReply, (none : Option TaggedReply) = some k →
        (resource path w).etag = some k.etag → k.Recalls (resource path w) g.nesting path := by
      intro k hk
      cases hk
    obtain ⟨cache', hread', -⟩ := takeReply_of_shows hplain hnone s e₁
    right
    refine ⟨w, w', _, _, hw, (bind_of_ok _ hx).trans hread, (bind_of_ok _ hy).trans hread', hsame', ?_⟩
    have hbefore : d₁.world.cache.Faithful g.nesting resource Same := by
      rw [hcache]
      exact hfaithful
    rcases hcases with rfl | rfl
    · exact hbefore
    · exact faithful_remembered hbefore hw path

/-- **One read is transparent**: with what it remembers a session reads what it would read without. -/
theorem getJson_alike (path : String) :
    Alike (Abreast g.nesting resource Same) (g.getJson path) (g.getJsonAfresh path) := by
  refine alike_of_same fun s d e habreast => ?_
  rcases getJson_cases h path s habreast with ⟨f, -, d', e', hd, he, hafter⟩ | ⟨w, w', d', e', -, hd, he, hafter⟩
  · rw [hd, he]
    exact ⟨rfl, hafter⟩
  · rw [hd, he]
    exact ⟨rfl, hafter⟩

omit h

/-! ## Any number of reads -/

abbrev Reading := Except Failure (Json × Option Cursor)

/-- Reads one path after another. Which path is next may depend on all that was read before. -/
def readings (read : String → Act (Session σ) (Json × Option Cursor)) (choose : List Reading → String) :
    Nat → Act (Session σ) (List Reading)
  | 0 => return []
  | count + 1 => do
    let before ← readings read choose count
    let last ← Act.outcome (read (choose before))
    return before ++ [last]

theorem readings_ends (read : String → Act (Session σ) (Json × Option Cursor)) (choose : List Reading → String)
    (count : Nat) (s : Scope) (d : Desk (Session σ)) : ∃ rs d', readings read choose count s d = (.ok rs, d') := by
  induction count with
  | zero => exact ⟨[], d, rfl⟩
  | succ count ih =>
    obtain ⟨before, d₁, hbefore⟩ := ih
    rw [readings, bind_of_ok _ hbefore, bind_of_ok _ (outcome_apply _)]
    exact ⟨_, _, rfl⟩

theorem readings_alike {R : Desk (Session σ) → Desk (Session σ) → Prop}
    {read read' : String → Act (Session σ) (Json × Option Cursor)} (hread : ∀ path, Alike R (read path) (read' path))
    (choose : List Reading → String) (count : Nat) :
    Alike R (readings read choose count) (readings read' choose count) := by
  induction count with
  | zero => exact alike_pure _
  | succ count ih =>
    refine Alike.bind ih fun before => ?_
    exact Alike.bind (hread (choose before)).outcomes fun last => alike_pure _

theorem ne_uncached {f : Failure} (hf : f.OfRequest) (path : String) :
    f ≠ .host ⟨.transient, "GitHub returned 304 for uncached path: " ++ path⟩ := by
  rintro rfl
  rcases hf with hlogin | ⟨rest, hapi⟩
  · have hstart := congrArg (fun text => text.toList.take 8) hlogin
    simp at hstart
  · have hstart := congrArg (fun text => text.toList.take 8) hapi
    simp at hstart

theorem reading_ne_uncached (R : Resource) (nesting : Nat) (path path' : String) :
    R.reading nesting path ≠ .error (.host ⟨.transient, "GitHub returned 304 for uncached path: " ++ path'⟩) := by
  unfold Resource.reading
  split
  · simp
  · intro heq
    have hmessage := congrArg HostError.message (Failure.host.inj (Except.error.inj heq))
    have hstart := congrArg (fun text => text.toList.take 17) hmessage
    simp at hstart
  · split <;> simp

/-- **Memory is transparent**: however many paths were read from a server whose resources change at will, and however
they were chosen, a session has read what it would have read without a memory. The next read, too, gives the same
payload and next page or fails alike, and not because a reply without news found nothing remembered. If
it fails, all that is remembered stays, and in any case the replies of other paths do. -/
theorem readings_transparent {g : Gateway σ} {resource : String → σ → Resource} {Same : σ → σ → Prop}
    (h : g.station.Serves g.timeLimit resource Same) (choose : List Reading → String) (count : Nat) (s : Scope)
    (d e : Desk (Session σ)) (hsame : Same d.world.world e.world.world) (hempty : d.world.cache = []) :
    ∃ rs d' e', readings g.getJson choose count s d = (.ok rs, d') ∧
      readings g.getJsonAfresh choose count s e = (.ok rs, e') ∧
      ∀ path s', (g.getJson path s' d').1 = (g.getJsonAfresh path s' e').1 ∧
        (g.getJson path s' d').1 ≠
          .error (.host ⟨.transient, "GitHub returned 304 for uncached path: " ++ path⟩) ∧
        (∀ f, (g.getJson path s' d').1 = .error f → (g.getJson path s' d').2.world.cache = d'.world.cache) ∧
        ∀ other, other ≠ path →
          (g.getJson path s' d').2.world.cache.reply? other = d'.world.cache.reply? other := by
  have habreast : Abreast g.nesting resource Same d e := by
    refine ⟨hsame, fun path k hk => ?_⟩
    rw [hempty] at hk
    cases hk
  obtain ⟨rs, d', hend⟩ := readings_ends g.getJson choose count s d
  obtain ⟨rs', e', hend'⟩ := readings_ends g.getJsonAfresh choose count s e
  obtain ⟨hreadings, hafter⟩ := (readings_alike (getJson_alike h) choose count).same (s := s) habreast
  rw [hend, hend'] at hreadings hafter
  obtain rfl : rs = rs' := Except.ok.inj hreadings
  refine ⟨rs, d', e', hend, hend', fun path s' => ⟨((getJson_alike h path).same hafter).1, ?_, getJson_cache g path s' d'⟩⟩
  rcases getJson_cases h path s' hafter with ⟨f, hf, _, _, hread, -⟩ | ⟨w, _, _, _, -, hread, -⟩
  · rw [hread]
    exact fun heq => ne_uncached hf path (Except.error.inj heq)
  · rw [hread]
    exact reading_ne_uncached _ _ _ _

/-! ### A server with two versions of a resource -/

/-- The tag of what such a server shows: after two requests it shows something else. -/
def versionTag (requests : Nat) : String :=
  if requests < 2 then "v1" else "v2"

/-- What such a server shows at every path. -/
def version (requests : Nat) : Resource :=
  ⟨if requests < 2 then "[1]" else "[2]", none, some (versionTag requests)⟩

def versionStation : Station Nat where
  run c requests :=
    let output :=
      if c.argv.take 6 = ["gh", "api", "--method", "GET", "--header", "If-None-Match: " ++ versionTag requests] then
        "HTTP/2.0 304 Not Modified\n\n"
      else "HTTP/2.0 200 OK\nETag: " ++ versionTag requests ++ "\n\n" ++ (version requests).body
    (.exited 0 output "", requests + 1)
  pause _ requests := requests
  now _ := default

theorem names_tag_iff (path : String) (etag : Option String) (timeLimit : Number) (tag : String) :
    ((Request.reading path etag).command timeLimit).argv.take 6 =
      ["gh", "api", "--method", "GET", "--header", "If-None-Match: " ++ tag] ↔ etag = some tag := by
  cases etag with
  | none => simp [Request.command, Request.argv, Request.reading, Method.name]
  | some named => simp [Request.command, Request.argv, Request.reading, Method.name]

theorem read_version (requests : Nat) :
    Exchange.read ("HTTP/2.0 200 OK\nETag: " ++ versionTag requests ++ "\n\n" ++ (version requests).body) =
      .ok ⟨200, [("etag", versionTag requests)], (version requests).body⟩ := by
  unfold version versionTag
  split <;> rfl

theorem version_shown (requests : Nat) (etag : Option String) :
    (⟨200, [("etag", versionTag requests)], (version requests).body⟩ : Exchange).Shows (version requests) etag :=
  .whole rfl rfl rfl rfl

theorem versionStation_serves (timeLimit : Number) :
    versionStation.Serves timeLimit (fun _ => version) (· = ·) where
  read path etag w w' hsame := by
    subst hsame
    refine ⟨rfl, ?_⟩
    have hplain : ¬((Request.reading path none).command timeLimit).argv.take 6 =
        ["gh", "api", "--method", "GET", "--header", "If-None-Match: " ++ versionTag w] := by
      simp [names_tag_iff]
    simp only [versionStation, CommandEnd.output?, if_neg hplain]
    by_cases htag : etag = some (versionTag w)
    · rw [if_pos ((names_tag_iff ..).mpr htag)]
      refine .shown (x := ⟨304, [], ""⟩) ?_ ?_ (.unchanged rfl _ htag rfl) (version_shown w none)
      · rfl
      · rw [Option.map_some, read_version]
    · rw [if_neg (mt (names_tag_iff ..).mp htag)]
      refine .shown ?_ ?_ (version_shown w etag) (version_shown w none)
      · rw [Option.map_some, read_version]
      · rw [Option.map_some, read_version]
  login _ _ _ _ hsame := by
    subst hsame
    exact ⟨rfl, rfl⟩
  pause _ _ _ hsame := hsame
  now _ _ _ := rfl
  tagged _ w _ v _ _ _ tag hw hv := by
    have hsame : versionTag w = versionTag v := Option.some.inj (hw.trans hv.symm)
    have hage : w < 2 ↔ v < 2 := by
      unfold versionTag at hsame
      by_cases hw : w < 2 <;> by_cases hv : v < 2 <;> simp [hw, hv] at hsame ⊢
    exact ⟨by simp only [version, hage], rfl⟩

def versionGateway : Gateway Nat :=
  { station := versionStation, owner := "o", name := "r" }

/-- A session with such a server: the second read is answered by the news that nothing has changed. -/
theorem readings_transparent_versions :
    (versionStation.run ((Request.reading "/x" (some "v1")).command versionGateway.timeLimit) 1).1.output? =
        some "HTTP/2.0 304 Not Modified\n\n" ∧
      ∃ rs d' e', readings versionGateway.getJson (fun _ => "/x") 3 {} ⟨⟨0, []⟩, #[]⟩ = (.ok rs, d') ∧
        readings versionGateway.getJsonAfresh (fun _ => "/x") 3 {} ⟨⟨0, []⟩, #[]⟩ = (.ok rs, e') ∧
        rs.map (fun r => r.toOption.map fun p => p.1.write) = [some "[1]", some "[1]", some "[2]"] ∧
        d'.world.cache.map (fun entry => entry.2.etag) = ["v2"] := by
  obtain ⟨rs, d', e', hread, hafresh, -⟩ := readings_transparent (versionStation_serves versionGateway.timeLimit)
    (g := versionGateway) (fun _ => "/x") 3 {} ⟨⟨0, []⟩, #[]⟩ ⟨⟨0, []⟩, #[]⟩ rfl rfl
  have hresults : ((readings versionGateway.getJson (fun _ => "/x") 3 {} ⟨⟨0, []⟩, #[]⟩).1.toOption.map fun rs =>
      rs.map fun r => r.toOption.map fun p => p.1.write) = some [some "[1]", some "[1]", some "[2]"] := by
    decide +kernel
  have hmemory : (readings versionGateway.getJson (fun _ => "/x") 3 {} ⟨⟨0, []⟩, #[]⟩).2.world.cache.map
      (fun entry => entry.2.etag) = ["v2"] := by
    decide +kernel
  rw [hread] at hresults hmemory
  exact ⟨by decide +kernel, rs, d', e', hread, hafresh, Option.some.inj hresults, hmemory⟩

end Gateway

end RunSteward
