import RunSteward.Proofs.Gateway.OnRecord
import RunSteward.Proofs.Log.RepoContext

/-!
# Loyal gateways

A host is loyal if all that the work on runs asks of it keeps to the repository that it is asked for
(`Host.Loyal`). A gateway is, whatever station it works at (`Gateway.host_loyal`): each attempt at a request, its
commands and its pauses, the reply that is remembered and the line that is logged in the end are done by the thread that
asks.
-/

namespace RunSteward

open Act

variable {σ α : Type}

theorem Session.outside_loyal {x : Act σ α} (h : Loyal x) : Loyal (Session.outside x) :=
  h.focus _ _

namespace Gateway

variable {g : Gateway σ}

/-! ## Requests -/

theorem call_loyal (st : Station σ) (checked : Bool) (c : Command) : Loyal (Session.outside (st.call checked c)) := by
  refine Session.outside_loyal (Loyal.bind (loyal_outside _) fun ended => ?_)
  rcases Station.judge checked c ended with f | output
  · exact Loyal.noted (loyal_pure _)
  · exact Loyal.bind (loyal_pure ()) fun _ => loyal_pure _

theorem clock_loyal : Loyal g.clock :=
  Session.outside_loyal (loyal_outside _)

theorem wait_loyal (seconds : Number) : Loyal (Session.outside (g.station.wait seconds)) :=
  Session.outside_loyal (loyal_outside _)

theorem giveUp_loyal (e : HostError) : Loyal (g.giveUp e) := by
  have hcheck : Loyal g.checkAuthentication := by
    refine Loyal.bind (call_loyal _ _ _) fun answer => ?_
    split
    · exact loyal_fail _
    · exact loyal_pure ()
  unfold giveUp
  by_cases hkind : e.kind ≠ .rateLimit
  · simp only [if_pos hkind]
    exact Loyal.bind hcheck fun _ => loyal_fail _
  · simp only [if_neg hkind]
    exact loyal_fail _

/-- Each attempt is loyal, and so are all that are left, by induction on their number. -/
theorem attemptFrom_loyal (r : Request) (left : Nat) (error : Option HostError) : Loyal (g.attemptFrom r left error) := by
  induction left generalizing error with
  | zero =>
    cases error with
    | none => exact loyal_fail _
    | some e => exact giveUp_loyal e
  | succ left ih =>
    rw [attemptFrom]
    apply Loyal.bind (loyal_orHalt _)
    intro backoff
    apply Loyal.bind (call_loyal _ _ _)
    intro output
    apply Loyal.bind clock_loyal
    intro now
    apply Loyal.bind (loyal_orHalt _)
    intro verdict
    cases verdict with
    | settled reply => exact loyal_pure reply
    | refused e => exact loyal_fail _
    | unsettled e pause =>
      apply Loyal.noted
      by_cases hleft : 0 < left
      · simp only [if_pos hleft]
        exact Loyal.bind (wait_loyal _) fun _ => ih (some e)
      · simp only [if_neg hleft]
        exact ih (some e)

theorem request_loyal (r : Request) : Loyal (g.request r) :=
  attemptFrom_loyal r _ none

/-! ## Reads and writes -/

theorem takeReply_loyal (path : String) (known : Option TaggedReply) (reply : Exchange) :
    Loyal (g.takeReply path known reply) := by
  unfold takeReply
  split
  · cases known with
    | none => exact loyal_fail _
    | some k => exact loyal_pure _
  · refine Loyal.bind (loyal_orHalt _) fun payload => ?_
    cases payload with
    | none => exact loyal_fail _
    | some payload =>
      refine Loyal.bind (loyal_orHalt _) fun next => ?_
      split
      · exact Loyal.bind (loyal_outside _) fun _ => loyal_pure _
      · exact Loyal.bind (loyal_pure ()) fun _ => loyal_pure _

theorem getJson_loyal (path : String) : Loyal (g.getJson path) := by
  rw [getJson_eq]
  refine Loyal.bind (loyal_outside _) fun known => ?_
  exact Loyal.bind (request_loyal _) fun reply => takeReply_loyal path known reply

theorem fileText_loyal (path ref : String) : Loyal (g.fileText path ref) := by
  have hobject : ∀ what suffix, Loyal (g.getObject what suffix) := fun what suffix =>
    Loyal.bind (getJson_loyal _) fun _ => loyal_orRefuse _
  unfold fileText
  refine Loyal.bind (hobject _ _) fun members => ?_
  have hrest : Loyal (σ := Session σ) (do
      let text ← Act.conclude (decodeContent path (Payload.text (Json.get members "content")))
      noteRead "contents" [("path", .text path), ("ref", .text ref)]
      return text) :=
    Loyal.bind (loyal_conclude _) fun _ => Loyal.noted (loyal_pure _)
  dsimp only
  split
  · exact Loyal.bind (loyal_fail _) fun _ => hrest
  · exact hrest

theorem send_loyal (r : Request) (event : String) (fields : LogFields) : Loyal (g.send r event fields) := by
  refine Loyal.bind (request_loyal r).attempt fun answer => ?_
  cases answer with
  | error e => exact Loyal.noted (loyal_fail _)
  | ok reply => exact Loyal.noted (loyal_orHalt _)

end Gateway

/-! ## Hosts -/

/-- A host that is loyal in what the work on runs asks of it. -/
structure Host.Loyal (host : Host σ) : Prop where
  page : ∀ listing cursor, Act.Loyal (host.page listing cursor)
  runsPage : ∀ number, Act.Loyal (host.runsPage number 100)
  fileText : ∀ path ref, Act.Loyal (host.fileText path ref)
  cancelRun : ∀ r, Act.Loyal (host.cancelRun r)
  removeRun : ∀ r, Act.Loyal (host.removeRun r)

theorem Gateway.host_loyal (g : Gateway σ) (pageLimit : Nat) : (g.host pageLimit).Loyal where
  page listing cursor := by
    show Act.Loyal (g.page listing cursor)
    refine Loyal.bind (getJson_loyal _) fun _ => Loyal.bind (loyal_orRefuse _) fun _ => ?_
    exact Loyal.noted (loyal_pure _)
  runsPage number := by
    show Act.Loyal (g.runsPage number 100)
    unfold Gateway.runsPage
    split
    · exact loyal_fail _
    · refine Loyal.bind (getJson_loyal _) fun _ => Loyal.bind (loyal_orRefuse _) fun _ => ?_
      exact Loyal.noted (loyal_pure _)
  fileText := fileText_loyal
  cancelRun r := Loyal.bind (send_loyal _ _ _) fun _ => loyal_pure ()
  removeRun r := Loyal.bind (send_loyal _ _ _) fun _ => loyal_pure ()

namespace Host

variable {host : Host σ}

theorem gatherFrom_loyal (h : host.Loyal) (l : Listing) (limit : Nat) (cursor : Option Cursor) :
    Act.Loyal (host.gatherFrom l limit cursor) := by
  induction limit generalizing cursor with
  | zero => exact loyal_fail _
  | succ limit ih =>
    refine Loyal.bind (h.page l cursor).attempt fun answer => ?_
    rcases answer with e | ⟨items, _ | next⟩
    · exact loyal_pure _
    · exact loyal_pure _
    · exact Loyal.bind (ih (some next)) fun _ => loyal_pure _

theorem gather_loyal (h : host.Loyal) (l : Listing) : Act.Loyal (host.gather l) :=
  gatherFrom_loyal h l _ none

theorem collect_loyal (h : host.Loyal) (l : Listing) : Act.Loyal (host.collect l) := by
  refine Loyal.bind (gather_loyal h l) fun found => ?_
  rcases found with ⟨items, _ | e⟩
  · exact loyal_pure _
  · exact loyal_fail _

end Host

end RunSteward
