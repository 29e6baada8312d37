import RunSteward.Gateway.Request
import RunSteward.Proofs.Act.Paired

/-!
# Recorded stations

To say what a gateway asks of its station, the station is recorded: beside the world it keeps which commands were
run, each with its end, and which pauses were made, in order (`Station.recorded`). Recording changes nothing: two
gateways whose stations do alike end their requests alike (`request_alike`), and a recorded station does what the
station itself does (`request_recorded`).
-/

namespace RunSteward

variable {σ τ α : Type}

/-! ## Stations that do alike -/

/-- Two stations that do alike in worlds that are the same to both. -/
structure Station.Mirrors (st : Station σ) (st' : Station τ) (Same : σ → τ → Prop) : Prop where
  run : ∀ c w w', Same w w' → (st.run c w).1 = (st'.run c w').1 ∧ Same (st.run c w).2 (st'.run c w').2
  pause : ∀ n w w', Same w w' → Same (st.pause n w) (st'.pause n w')
  now : ∀ w w', Same w w' → st.now w = st'.now w'

/-- Two desks with the same log, whose worlds are the same. -/
def Desk.Mirrors (Same : σ → τ → Prop) (d : Desk σ) (e : Desk τ) : Prop :=
  Same d.world e.world ∧ d.log = e.log

/-- Two sessions that remember the same, in worlds that are the same. -/
def Session.Mirrors (Same : σ → τ → Prop) (v : Session σ) (w : Session τ) : Prop :=
  Same v.world w.world ∧ v.cache = w.cache

namespace Act

variable {Same : σ → τ → Prop}

theorem record_mirrors (level : LogLevel) (logger message : String) :
    Alike (Desk.Mirrors Same) (record level logger message) (record level logger message) := by
  rintro s d e ⟨hsame, hlog⟩
  refine .result ⟨rfl, hsame, ?_⟩
  change d.log.push _ = e.log.push _
  rw [hlog]

theorem outside_mirrors {f : σ → α × σ} {f' : τ → α × τ}
    (h : ∀ w w', Same w w' → (f w).1 = (f' w').1 ∧ Same (f w).2 (f' w').2) :
    Alike (Desk.Mirrors Same) (outside f) (outside f') := by
  rintro s d e ⟨hsame, hlog⟩
  obtain ⟨hresult, hafter⟩ := h _ _ hsame
  exact .result ⟨hresult, hafter, hlog⟩

theorem session_mirrors {x : Act σ α} {y : Act τ α} (h : Alike (Desk.Mirrors Same) x y) :
    Alike (Desk.Mirrors (Session.Mirrors Same)) (Session.outside x) (Session.outside y) := by
  refine alike_of_same fun s d e hsame => ?_
  obtain ⟨⟨hworld, hcache⟩, hlog⟩ := hsame
  obtain ⟨hresult, hworld', hlog'⟩ :=
    h.same (s := s) (d := ⟨d.world.world, d.log⟩) (e := ⟨e.world.world, e.log⟩) ⟨hworld, hlog⟩
  exact ⟨hresult, ⟨hworld', hcache⟩, hlog'⟩

end Act

open Act

namespace Station

variable {st : Station σ} {st' : Station τ} {Same : σ → τ → Prop} (h : st.Mirrors st' Same)
include h

theorem call_mirrors (checked : Bool) (c : Command) :
    Alike (Desk.Mirrors Same) (st.call checked c) (st'.call checked c) := by
  refine Alike.bind (outside_mirrors (h.run c)) fun ended => ?_
  rcases judge checked c ended with f | output
  · exact Alike.bind (record_mirrors _ _ _) fun _ => alike_pure _
  · exact Alike.bind (alike_pure ()) fun _ => alike_pure _

theorem wait_mirrors (n : Number) : Alike (Desk.Mirrors Same) (st.wait n) (st'.wait n) :=
  outside_mirrors fun w w' hsame => ⟨rfl, h.pause n w w' hsame⟩

theorem clock_mirrors : Alike (Desk.Mirrors Same) st.clock st'.clock :=
  outside_mirrors fun w w' hsame => ⟨h.now w w' hsame, hsame⟩

end Station

namespace Gateway

/-- A gateway that works at another station. -/
def on (g : Gateway σ) (st : Station τ) : Gateway τ :=
  ⟨st, g.owner, g.name, g.timeLimit, g.maxAttempts, g.nesting⟩

variable {g : Gateway σ} {st' : Station τ} {Same : σ → τ → Prop} (h : g.station.Mirrors st' Same)
include h

theorem checkAuthentication_mirrors :
    Alike (Desk.Mirrors (Session.Mirrors Same)) g.checkAuthentication (g.on st').checkAuthentication := by
  refine Alike.bind (session_mirrors (Station.call_mirrors h _ _)) fun answer => ?_
  split
  · exact alike_fail _
  · exact alike_pure _

theorem giveUp_mirrors (e : HostError) :
    Alike (Desk.Mirrors (Session.Mirrors Same)) (g.giveUp e) ((g.on st').giveUp e) := by
  unfold giveUp
  by_cases hkind : e.kind ≠ .rateLimit
  · simp only [if_pos hkind]
    exact Alike.bind (checkAuthentication_mirrors h) fun _ => alike_fail _
  · simp only [if_neg hkind]
    exact alike_fail _

theorem attemptFrom_mirrors (r : Request) (left : Nat) (error : Option HostError) :
    Alike (Desk.Mirrors (Session.Mirrors Same)) (g.attemptFrom r left error)
      ((g.on st').attemptFrom r left error) := by
  induction left generalizing error with
  | zero =>
    cases error with
    | none => exact alike_fail _
    | some e => exact giveUp_mirrors h e
  | succ left ih =>
    rw [attemptFrom, attemptFrom]
    refine Alike.bind (alike_orHalt _) fun backoff => ?_
    refine Alike.bind (session_mirrors (Station.call_mirrors h _ _)) fun output => ?_
    refine Alike.bind (session_mirrors (Station.clock_mirrors h)) fun now => ?_
    refine Alike.bind (alike_orHalt _) fun verdict => ?_
    cases verdict with
    | settled reply => exact alike_pure reply
    | refused e => exact alike_fail _
    | unsettled e pause =>
      refine Alike.bind (record_mirrors _ _ _) fun _ => ?_
      by_cases hleft : 0 < left
      · simp only [if_pos hleft]
        exact Alike.bind (session_mirrors (Station.wait_mirrors h _)) fun _ => ih (some e)
      · simp only [if_neg hleft]
        exact ih (some e)

theorem request_mirrors (r : Request) :
    Alike (Desk.Mirrors (Session.Mirrors Same)) (g.request r) ((g.on st').request r) :=
  attemptFrom_mirrors h r _ none

end Gateway

/-! ## Recording -/

/-- Something that a station was asked to do. -/
inductive StationEvent where
  | ran (command : Command) (ended : CommandEnd)
  | paused (length : Number)

/-- A world with what was asked of its station, in order. -/
structure Recorded (σ : Type) where
  world : σ
  events : List StationEvent := []

/-- A station that keeps what it was asked to do. -/
def Station.recorded (st : Station σ) : Station (Recorded σ) where
  run c w := ((st.run c w.world).1, ⟨(st.run c w.world).2, w.events ++ [.ran c (st.run c w.world).1]⟩)
  pause n w := ⟨st.pause n w.world, w.events ++ [.paused n]⟩
  now w := st.now w.world

theorem Station.recorded_run {st : Station σ} {c : Command} {v : Recorded σ} {e : CommandEnd} {w : σ}
    (h : st.run c v.world = (e, w)) : st.recorded.run c v = (e, ⟨w, v.events ++ [.ran c e]⟩) := by
  simp [recorded, h]

theorem Station.recorded_mirrors (st : Station σ) : st.Mirrors st.recorded fun v w => v = w.world where
  run := by
    rintro c v w rfl
    exact ⟨rfl, rfl⟩
  pause := by
    rintro n v w rfl
    rfl
  now := by
    rintro v w rfl
    rfl

namespace Gateway

def recorded (g : Gateway σ) : Gateway (Recorded σ) :=
  g.on g.station.recorded

/-- What a request asks of the station, in order. -/
def trace (g : Gateway σ) (r : Request) (s : Scope) (d : Desk (Session σ)) : List StationEvent :=
  (g.recorded.request r s ⟨⟨⟨d.world.world, []⟩, d.world.cache⟩, d.log⟩).2.world.world.events

/-- **Recording changes nothing**: at a recorded station a request ends as at the station itself. -/
theorem request_recorded (g : Gateway σ) (r : Request) (s : Scope) (d : Desk (Session σ)) :
    (g.recorded.request r s ⟨⟨⟨d.world.world, []⟩, d.world.cache⟩, d.log⟩).1 = (g.request r s d).1 := by
  have hmirrors := request_mirrors g.station.recorded_mirrors r
  exact (hmirrors.same (s := s) (d := d) ⟨⟨rfl, rfl⟩, rfl⟩).1.symm

end Gateway

end RunSteward
