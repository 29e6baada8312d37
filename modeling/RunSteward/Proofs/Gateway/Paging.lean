import Mathlib.Tactic.IntervalCases
import RunSteward.Proofs.Gateway.Legibility
import RunSteward.Proofs.Gateway.OnRecord
import RunSteward.Proofs.Host.Paging

/-!
# Requests for pages

What a listing asks of the station is what the requests for its pages ask for, one after another (`page_recorded`).
-/

namespace RunSteward

open Act

variable {σ τ α : Type}

/-- Two recorded worlds that are the same, one of which keeps more of what was asked before. -/
def Recorded.Later (before : List StationEvent) (v w : Recorded σ) : Prop :=
  v.world = w.world ∧ w.events = before ++ v.events

theorem events_of_bind {β : Type} {x : Act (Session (Recorded σ)) α} {f : α → Act (Session (Recorded σ)) β}
    (hf : ∀ a s d, (f a s d).2.world.world.events = d.world.world.events) (s : Scope)
    (d : Desk (Session (Recorded σ))) :
    ((x >>= f) s d).2.world.world.events = (x s d).2.world.world.events := by
  rcases hx : x s d with ⟨e | a, d'⟩
  · rw [bind_of_error _ hx]
  · rw [bind_of_ok _ hx]
    exact hf a s d'

namespace Gateway

/-! ## One page -/

section Mirrors

variable {Same : σ → τ → Prop} {g : Gateway σ} {st' : Station τ} (h : g.station.Mirrors st' Same)
include h

theorem page_mirrors (l : Listing) (cursor : Option Cursor) :
    Alike (Desk.Mirrors (Session.Mirrors Same)) (g.page l cursor) ((g.on st').page l cursor) := by
  refine Alike.bind (getJson_mirrors h _) fun answer => ?_
  refine Alike.bind (orRefuse_mirrors _) fun items => ?_
  exact Alike.bind (record_mirrors _ _ _) fun _ => alike_pure _

end Mirrors

variable {g : Gateway σ} {l : Listing} {cursor : Option Cursor} {s : Scope} {d d' : Desk (Session σ)}
  {D : Desk (Session (Recorded σ))}

theorem recorded_mirrors_later (st : Station σ) (before : List StationEvent) :
    st.recorded.Mirrors st.recorded (Recorded.Later before) where
  run := by
    rintro c ⟨v, events⟩ ⟨w, events'⟩ ⟨rfl, rfl⟩
    exact ⟨rfl, rfl, List.append_assoc ..⟩
  pause := by
    rintro n ⟨v, events⟩ ⟨w, events'⟩ ⟨rfl, rfl⟩
    exact ⟨rfl, List.append_assoc ..⟩
  now := by
    rintro ⟨v, events⟩ ⟨w, events'⟩ ⟨rfl, rfl⟩
    rfl

theorem request_adds (r : Request) (hD : d.Recorded D) :
    (g.recorded.request r s D).2.world.world.events = D.world.world.events ++ g.trace r s d := by
  obtain ⟨⟨hworld, hcache⟩, hlog⟩ := hD
  have hmirrors := request_mirrors (g := g.recorded) (recorded_mirrors_later g.station D.world.world.events) r
  have hlater : Desk.Mirrors (Session.Mirrors (Recorded.Later D.world.world.events)) d.onRecord D :=
    ⟨⟨⟨hworld, (List.append_nil _).symm⟩, hcache⟩, hlog⟩
  exact (hmirrors.same (s := s) hlater).2.1.1.2

theorem page_events (g : Gateway σ) (l : Listing) (cursor : Option Cursor) (s : Scope)
    (D : Desk (Session (Recorded σ))) :
    (g.recorded.page l cursor s D).2.world.world.events =
      (g.recorded.request (g.pageRequest l cursor D.world.cache) s D).2.world.world.events := by
  have hpage : (g.recorded.page l cursor s D).2.world.world.events =
      (g.recorded.getJson (cursor.getD (g.recorded.pathTo l.path)) s D).2.world.world.events := by
    refine events_of_bind (fun answer s d => ?_) s D
    rcases answer with ⟨payload, next⟩
    rcases hread : l.read payload with e | items
    · simp only [hread]
      rfl
    · simp only [hread]
      rfl
  rw [hpage, getJson_apply]
  exact events_of_bind (takeReply_still g _ _) s D

/-- What the request for a page that was fetched asks of the station. -/
def asked (g : Gateway σ) (s : Scope) (f : Fetch (Session σ) l) : List StationEvent :=
  g.trace (g.pageRequest l f.cursor f.before.world.cache) s f.before

/-- At a recorded station a page is fetched as at the station itself, and the request for it is all that is asked. -/
theorem page_recorded {answer : Except HostError (Page l.Item)} (hD : d.Recorded D)
    (hpage : g.page l cursor s d = (Except.mapError Failure.host answer, d')) :
    ∃ D', g.recorded.page l cursor s D = (Except.mapError Failure.host answer, D') ∧ d'.Recorded D' ∧
      D'.world.world.events = D.world.world.events ++ g.asked s ⟨cursor, d, answer, d'⟩ := by
  obtain ⟨D', hpage', hD'⟩ := (page_mirrors g.station.recorded_mirrors l cursor).follow hD hpage
  refine ⟨D', hpage', hD', ?_⟩
  have hevents := page_events g l cursor s D
  rw [show g.recorded.page l cursor s D = _ from hpage', request_adds _ hD, ← hD.1.2] at hevents
  exact hevents

/-- A request that comes to an answer begins with its command, whatever it asks for after that. -/
theorem request_begins (g : Gateway σ) (r : Request) (s : Scope) (D : Desk (Session (Recorded σ)))
    (hanswered : ∀ f, (g.recorded.request r s D).1 ≠ .error (.fault f)) :
    ∃ e more, (g.recorded.request r s D).2.world.world.events =
      D.world.world.events ++ .ran (r.command g.timeLimit) e :: more := by
  obtain ⟨events, hevents, hcourse⟩ := attemptFrom_course g r g.maxAttempts.toNat none s D
  change g.Course r g.maxAttempts.toNat none events (g.recorded.request r s D).1 at hcourse
  generalize (g.recorded.request r s D).1 = result at hanswered hcourse
  generalize g.maxAttempts.toNat = left at hcourse
  cases hcourse with
  | untried | overlong => exact absurd rfl (hanswered _)
  | ended | lost => exact ⟨_, _, hevents⟩

/-- The request for a page that was fetched begins with its command, and runs no other one but that which asks who is
logged in. -/
theorem asked_begins {f : Fetch (Session σ) l}
    (hpage : g.page l f.cursor s f.before = (f.answer.mapError Failure.host, f.after)) :
    ∃ e more, g.asked s f =
        .ran ((g.pageRequest l f.cursor f.before.world.cache).command g.timeLimit) e :: more ∧
      ∀ c e', .ran c e' ∈ more →
        c = (g.pageRequest l f.cursor f.before.world.cache).command g.timeLimit ∨ c = g.loginCommand := by
  have hanswered : ∀ fault, (g.request (g.pageRequest l f.cursor f.before.world.cache) s f.before).1 ≠
      .error (.fault fault) := by
    intro fault hfault
    have hrequest : g.request (g.pageRequest l f.cursor f.before.world.cache) s f.before = (.error (.fault fault), _) :=
      Prod.ext hfault rfl
    rw [page, bind_of_error _ ((getJson_apply _ s f.before).trans (bind_of_error _ hrequest))] at hpage
    have hresult := congrArg Prod.fst hpage
    rcases hanswer : f.answer with e | page <;> rw [hanswer] at hresult <;> cases hresult
  rw [← request_recorded] at hanswered
  obtain ⟨e, more, hevents⟩ := request_begins g _ s f.before.onRecord hanswered
  have hasked : g.asked s f = _ := hevents
  refine ⟨e, more, hasked, fun c e' hmem => ?_⟩
  have htold := g.trace_told (g.pageRequest l f.cursor f.before.world.cache) s f.before
  refine htold.commands c e' ?_
  change .ran c e' ∈ g.asked s f
  rw [hasked]
  exact List.mem_cons_of_mem _ hmem

/-! ## All pages -/

/-- How an act of a session ends, with and without a recorded station, and what it asks of the station. -/
structure Sends (x : Act (Session σ) α) (y : Act (Session (Recorded σ)) α) (s : Scope) (d : Desk (Session σ))
    (D : Desk (Session (Recorded σ))) (result : Except Failure α) (events : List StationEvent) : Prop where
  plain : (x s d).1 = result
  onRecord : (y s D).1 = result
  adds : (y s D).2.world.world.events = D.world.world.events ++ events

open Host Fetch

section Shown

variable {limit : Nat} {fetches : List (Fetch (Session σ) l)} {error : Option HostError}
  (hshows : (g.host limit).Shows l s d fetches error) (hD : d.Recorded D)
include hshows hD

/-- At a recorded station the same pages are shown. Whoever went through the first of them has sent the requests for
these. -/
theorem shows_recorded : ∃ fetches' : List (Fetch (Session (Recorded σ)) l),
    (g.recorded.host limit).Shows l s D fetches' error ∧ fetches'.map Fetch.items = fetches.map Fetch.items ∧
      ∀ m, (reached D (fetches'.take m)).world.world.events =
        D.world.world.events ++ (fetches.take m).flatMap (g.asked s) := by
  obtain ⟨fetches', hchain, hitems, hfront⟩ := hshows.chain.follow (g.recorded.host limit)
    (fun D => D.world.world.events) (g.asked s) (fun cursor answer d d' D hD hpage => page_recorded hD hpage) hD
  have hlength : fetches'.length = fetches.length := by simpa using congrArg List.length hitems
  exact ⟨fetches', ⟨hchain, hlength ▸ hshows.fits⟩, hitems, fun m => (hfront m).2⟩

theorem draw_recorded (n : Nat) : ∃ m d' D', Needed (fetches.map Fetch.items) n m ∧
    (g.host limit).drawFrom l limit n none s d =
      (.ok ((listed fetches).take n, if m = fetches.length then error else none), d') ∧
    (g.recorded.host limit).drawFrom l limit n none s D =
      (.ok ((listed fetches).take n, if m = fetches.length then error else none), D') ∧
    D'.world.world.events = D.world.world.events ++ (fetches.take m).flatMap (g.asked s) := by
  obtain ⟨fetches', hshows', hitems, hevents⟩ := shows_recorded hshows hD
  have hlength : fetches'.length = fetches.length := by simpa using congrArg List.length hitems
  obtain ⟨m, hneeded, hdraw⟩ := hshows.draw n
  obtain ⟨m', hneeded', hdraw'⟩ := hshows'.draw n
  rw [hitems] at hneeded'
  obtain rfl := hneeded.unique hneeded'
  rw [listed_congr hitems, hlength] at hdraw'
  exact ⟨m, _, _, hneeded, hdraw, hdraw', hevents m⟩

theorem collect_recorded : ∃ D', (g.recorded.host limit).collect l s D = (ended (listed fetches) error, D') ∧
    D'.world.world.events = D.world.world.events ++ fetches.flatMap (g.asked s) := by
  obtain ⟨fetches', hshows', hitems, hevents⟩ := shows_recorded hshows hD
  have hlength : fetches'.length = fetches.length := by simpa using congrArg List.length hitems
  have hall := hevents fetches.length
  rw [← hlength, List.take_length, hlength, List.take_length] at hall
  rw [hshows'.collect, listed_congr hitems]
  exact ⟨_, rfl, hall⟩

theorem first_recorded {first : Page l.Item} {D₁ : Desk (Session (Recorded σ))}
    (hfirst : g.recorded.page l none s D = (.ok first, D₁)) :
    D₁.world.world.events = D.world.world.events ++ (fetches.take 1).flatMap (g.asked s) := by
  obtain ⟨fetches', hshows', -, hevents⟩ := shows_recorded hshows hD
  obtain rfl : reached D (fetches'.take 1) = D₁ := hshows'.chain.reached_first.trans (congrArg Prod.snd hfirst)
  exact hevents 1

end Shown

/-- **Listings are walked through lazily.** Of a listing whose pages are found one behind the other, up to the last one
or to one that is refused, the first items are taken at the cost of the requests for the pages that hold them, in
order, and of no other request. The error of a refused page comes behind the items of all pages before it. Collecting
the listing takes one request for each page, and gives the items of all of them or the error. -/
theorem listing_lazy (g : Gateway σ) {limit : Nat} {fetches : List (Fetch (Session σ) l)} {error : Option HostError}
    (hshows : (g.host limit).Shows l s d fetches error) (hD : d.Recorded D) :
    (∀ f ∈ fetches, ∃ e more,
      g.asked s f = .ran ((g.pageRequest l f.cursor f.before.world.cache).command g.timeLimit) e :: more ∧
        ∀ c e', .ran c e' ∈ more →
          c = (g.pageRequest l f.cursor f.before.world.cache).command g.timeLimit ∨ c = g.loginCommand) ∧
      (∀ n, ∃ m, Needed (fetches.map Fetch.items) n m ∧
        Sends ((g.host limit).take l n) ((g.recorded.host limit).take l n) s d D
          (ended ((listed fetches).take n) (if m = fetches.length then error else none))
          ((fetches.take m).flatMap (g.asked s)) ∧
        ∀ first d₁ D₁, g.page l none s d = (.ok first, d₁) → g.recorded.page l none s D = (.ok first, D₁) →
          D₁.world.world.events = D.world.world.events ++ (fetches.take 1).flatMap (g.asked s) ∧
          Sends ((g.host limit).takeFrom l limit n first) ((g.recorded.host limit).takeFrom l limit n first) s d₁ D₁
            (.ok ((listed fetches).take n, if m = fetches.length then error else none))
            (((fetches.take m).drop 1).flatMap (g.asked s))) ∧
      Sends ((g.host limit).collect l) ((g.recorded.host limit).collect l) s d D (ended (listed fetches) error)
        (fetches.flatMap (g.asked s)) := by
  refine ⟨fun f hf => asked_begins (hshows.chain.fetched hf), fun n => ?_, ?_⟩
  · obtain ⟨m, d', D', hneeded, hdraw, hdraw', hevents⟩ := draw_recorded hshows hD n
    have htake : (g.host limit).take l n s d = _ := take_of_draw hdraw
    have htake' : (g.recorded.host limit).take l n s D = _ := take_of_draw hdraw'
    refine ⟨m, hneeded, ⟨congrArg Prod.fst htake, congrArg Prod.fst htake', ?_⟩, fun first d₁ D₁ hfirst hfirst' => ?_⟩
    · rw [htake']
      exact hevents
    · have hbegun := first_recorded hshows hD hfirst'
      have hwalk : (g.host limit).takeFrom l limit n first s d₁ = _ := takeFrom_of_draw hfirst hdraw
      have hwalk' : (g.recorded.host limit).takeFrom l limit n first s D₁ = _ := takeFrom_of_draw hfirst' hdraw'
      refine ⟨hbegun, congrArg Prod.fst hwalk, congrArg Prod.fst hwalk', ?_⟩
      -- the pages that are needed are the first one and those behind it
      have hsplit : fetches.take m = fetches.take 1 ++ (fetches.take m).drop 1 := by
        have hfirstPage : (fetches.take m).take 1 = fetches.take 1 := by
          rw [List.take_take, Nat.min_eq_left hneeded.first]
        rw [← hfirstPage, List.take_append_drop]
      rw [hwalk', hbegun, List.append_assoc, ← List.flatMap_append, ← hsplit]
      exact hevents
  · obtain ⟨D', hcollect', hevents⟩ := collect_recorded hshows hD
    refine ⟨?_, ?_, ?_⟩
    · rw [hshows.collect]
    · rw [hcollect']
    · rw [hcollect']
      exact hevents

/-- A station with three pages of branches, the second of which is empty, and a fourth that is gone. -/
def pagedStation : Station Unit where
  run c w :=
    (match Script.resource c.argv with
      | "GET /repos/o/r/branches?per_page=100" => .exited 0
        "HTTP/2.0 200 OK\nLink: <http://h/2>; rel=\"next\"\n\n[\x7b\"name\": \"master\"\x7d]" ""
      | "GET /2" => .exited 0 "HTTP/2.0 200 OK\nLink: <http://h/3>; rel=\"next\"\n\n[]" ""
      | "GET /3" => .exited 0
        "HTTP/2.0 200 OK\nLink: <http://h/4>; rel=\"next\"\n\n[\x7b\"name\": \"6.5.x\"\x7d]" ""
      | _ => .exited 0 "HTTP/2.0 410 Gone\n\n" "", w)
  pause _ w := w
  now _ := default

def paged : Gateway Unit where
  station := pagedStation
  owner := "o"
  name := "r"

def pagedDesk : Desk (Session Unit) :=
  ⟨⟨(), []⟩, #[]⟩

def pageGone : HostError :=
  ⟨.notFound, "GitHub API GET /4 failed with status 410: <empty>"⟩

/-- The desk that a page of branches is left at. -/
def pagedAfter (d : Desk (Session Unit)) (cursor : Option Cursor) : Desk (Session Unit) :=
  (paged.page .branches cursor {} d).2

theorem page_of_answer {cursor : Option Cursor} {d : Desk (Session Unit)} (answer : Except HostError (Page Branch))
    (h : (paged.page .branches cursor {} d).1 = answer.mapError Failure.host) :
    paged.page .branches cursor {} d = (answer.mapError Failure.host, pagedAfter d cursor) :=
  Prod.ext h rfl

def pagedDesk₁ : Desk (Session Unit) := pagedAfter pagedDesk none

def pagedDesk₂ : Desk (Session Unit) := pagedAfter pagedDesk₁ (some "/2")

def pagedDesk₃ : Desk (Session Unit) := pagedAfter pagedDesk₂ (some "/3")

def pagedDesk₄ : Desk (Session Unit) := pagedAfter pagedDesk₃ (some "/4")

def pagedFetches : List (Fetch (Session Unit) .branches) :=
  [⟨none, pagedDesk, .ok ⟨[⟨"master", ""⟩], some "/2"⟩, pagedDesk₁⟩,
    ⟨some "/2", pagedDesk₁, .ok ⟨[], some "/3"⟩, pagedDesk₂⟩,
    ⟨some "/3", pagedDesk₂, .ok ⟨[⟨"6.5.x", ""⟩], some "/4"⟩, pagedDesk₃⟩,
    ⟨some "/4", pagedDesk₃, .error pageGone, pagedDesk₄⟩]

def page? {β : Type} (r : Except Failure (Page β)) : Option (List β × Option Cursor) :=
  r.toOption.map fun p => (p.items, p.next)

theorem eq_of_page? {β : Type} {r : Except Failure (Page β)} {items : List β} {next : Option Cursor}
    (h : page? r = some (items, next)) : r = .ok ⟨items, next⟩ := by
  unfold page? at h
  rcases r with f | ⟨items', next'⟩
  · cases h
  · cases h
    rfl

def refusal? {β : Type} : Except Failure β → Option HostError
  | .error (.host e) => some e
  | _ => none

theorem eq_of_refusal? {β : Type} {r : Except Failure β} {e : HostError} (h : refusal? r = some e) :
    r = .error (.host e) := by
  unfold refusal? at h
  split at h
  · rw [Option.some.inj h]
  · cases h

theorem pagedShows : (paged.host 4).Shows .branches {} pagedDesk pagedFetches (some pageGone) where
  chain := by
    have hfirst : paged.page .branches none {} pagedDesk = (.ok ⟨[⟨"master", ""⟩], some "/2"⟩, pagedDesk₁) :=
      page_of_answer (.ok _) (eq_of_page? (by decide +kernel))
    have hsecond : paged.page .branches (some "/2") {} pagedDesk₁ = (.ok ⟨[], some "/3"⟩, pagedDesk₂) :=
      page_of_answer (.ok _) (eq_of_page? (by decide +kernel))
    have hthird : paged.page .branches (some "/3") {} pagedDesk₂ =
        (.ok ⟨[⟨"6.5.x", ""⟩], some "/4"⟩, pagedDesk₃) :=
      page_of_answer (.ok _) (eq_of_page? (by decide +kernel))
    have hgone : paged.page .branches (some "/4") {} pagedDesk₃ = (.error (.host pageGone), pagedDesk₄) :=
      page_of_answer (.error _) (eq_of_refusal? (by decide +kernel))
    exact .further hfirst (.further hsecond (.further hthird (.refused hgone)))
  fits := Nat.le_refl 4

/-- Of two branches on three pages both can be taken without the fourth page; whoever wants more gets its error. -/
theorem listing_lazy_paged :
    (paged.host 4).Shows .branches {} pagedDesk pagedFetches (some pageGone) ∧
      pagedDesk.Recorded pagedDesk.onRecord ∧
      Sends ((paged.host 4).take .branches 2) ((paged.recorded.host 4).take .branches 2) {} pagedDesk
        pagedDesk.onRecord (.ok [⟨"master", ""⟩, ⟨"6.5.x", ""⟩]) ((pagedFetches.take 3).flatMap (paged.asked {})) ∧
      Sends ((paged.host 4).take .branches 3) ((paged.recorded.host 4).take .branches 3) {} pagedDesk
        pagedDesk.onRecord (.error (.host pageGone)) (pagedFetches.flatMap (paged.asked {})) := by
  have hrecorded : pagedDesk.Recorded pagedDesk.onRecord := ⟨⟨rfl, rfl⟩, rfl⟩
  obtain ⟨-, htake, -⟩ := listing_lazy paged pagedShows hrecorded
  have hthree : Needed (pagedFetches.map Fetch.items) 2 3 :=
    ⟨by decide, by decide, fun j hj hj' => by interval_cases j <;> decide, .inl (by decide)⟩
  have hall : Needed (pagedFetches.map Fetch.items) 3 4 :=
    ⟨by decide, by decide, fun j hj hj' => by interval_cases j <;> decide, .inr rfl⟩
  refine ⟨pagedShows, hrecorded, ?_, ?_⟩
  · obtain ⟨m, hneeded, hsends, -⟩ := htake 2
    obtain rfl := hneeded.unique hthree
    exact hsends
  · obtain ⟨m, hneeded, hsends, -⟩ := htake 3
    obtain rfl := hneeded.unique hall
    exact hsends

end Gateway

end RunSteward
