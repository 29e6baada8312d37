import RunSteward.Proofs.Governance.Findings

/-!
# Lenient hosts

A lenient host forgives refusals of listings and pages of runs: where the host itself refuses, it shows nothing
(`Host.lenient`). A pass finds the same work on both (`lenient_workalike`), so it does the same and comes to the same
report, whichever refusals are forgiven (`runPass_lenient`); only the log differs. Thus a refused listing is worked
on as if it had been empty, and everything else in the pass is as it would be then.
-/

namespace RunSteward

variable {σ α : Type}

/-! ## Acts that do not look at the log -/

def Desk.SameWorld (d e : Desk σ) : Prop :=
  d.world = e.world

/-- An act that neither ends otherwise nor changes the world otherwise when the log is another one. -/
def Act.Blind (x : Act σ α) : Prop :=
  Act.Alike Desk.SameWorld x x

/-- A governor whose host and clock do not look at the log. -/
structure Governor.Blind (g : Governor σ) : Prop where
  page : ∀ listing cursor, (g.host.page listing cursor).Blind
  runsPage : ∀ number size, (g.host.runsPage number size).Blind
  request : ∀ kind r, (g.request kind r).Blind
  clock : g.clock.Blind

/-! ## Forgiven refusals -/

/-- A host that forgives refusals of some listings and pages of runs. A listing with a page that is refused is
empty as a whole. -/
def Host.lenient (host : Host σ) (listings : RunFilter → Bool) (pages : Int → Bool) : Host σ :=
  { host with
    page := fun listing cursor =>
      match listing with
      | .runs filter =>
        if listings filter then do
          let (items, error) ← host.gather (.runs filter)
          return ⟨if error.isSome then [] else items, none⟩
        else host.page (.runs filter) cursor
      | listing => host.page listing cursor
    runsPage := fun number size =>
      if pages number then do
        let answer ← Act.attempt (host.runsPage number size)
        return answer.toOption.getD []
      else host.runsPage number size }

def Governor.lenient (g : Governor σ) (listings : RunFilter → Bool) (pages : Int → Bool) : Governor σ :=
  { g with host := g.host.lenient listings pages }

open Act

theorem Act.attempt_map {β : Type} {x : Act σ α} (h : ∀ s d e, (x s d).1 ≠ .error (.host e)) (f : α → β) :
    attempt (x >>= fun a => pure (f a)) = x >>= fun a => pure (.ok (f a)) := by
  funext s d
  rcases hx : x s d with ⟨(e | fault) | a, d₁⟩
  · exact absurd (congrArg Prod.fst hx) (h s d e)
  · rw [bind_of_error _ hx]
    exact attempt_of_fault (bind_of_error _ hx)
  · rw [bind_of_ok _ hx]
    exact attempt_of_ok (bind_of_ok _ hx)

namespace Host

variable {host : Host σ} {listings : RunFilter → Bool} {pages : Int → Bool}

theorem gatherFrom_congr {host host' : Host σ} {listing : Listing}
    (h : ∀ cursor, host'.page listing cursor = host.page listing cursor) (limit : Nat) (cursor : Option Cursor) :
    host'.gatherFrom listing limit cursor = host.gatherFrom listing limit cursor := by
  induction limit generalizing cursor with
  | zero => rfl
  | succ limit ih =>
    simp only [gatherFrom, h, ih]

theorem gather_lenient (listing : Listing) (h : ∀ filter, listing ≠ .runs filter) :
    (host.lenient listings pages).gather listing = host.gather listing := by
  refine gatherFrom_congr (fun cursor => ?_) _ _
  cases listing with
  | runs filter => exact absurd rfl (h filter)
  | _ => rfl

/-- What is forgiven of a listing of runs. -/
def forgiven (forgives : Bool) (gathered : List WorkflowRun × Option HostError) :
    List WorkflowRun × Option HostError :=
  if forgives && gathered.2.isSome then ([], none) else gathered

theorem gather_lenient_runs (filter : RunFilter) :
    (host.lenient listings pages).gather (.runs filter) =
      host.gather (.runs filter) >>= fun gathered => pure (forgiven (listings filter) gathered) := by
  rcases hforgives : listings filter with _ | _
  · have hpage : ∀ cursor, (host.lenient listings pages).page (.runs filter) cursor = host.page (.runs filter) cursor := by
      intro cursor
      simp [lenient, hforgives]
    have hgather : (host.lenient listings pages).gather (.runs filter) = host.gather (.runs filter) :=
      gatherFrom_congr hpage _ _
    rw [hgather]
    simp [forgiven]
  · -- one page of a lenient host is the whole listing of the host itself, which only a limit of no pages cuts off
    rcases hlimit : host.pageLimit with _ | limit
    · have hstrict : host.gather (.runs filter) = halt .endlessListing := by
        rw [gather, hlimit, gatherFrom]
      have hlenient : (host.lenient listings pages).gather (.runs filter) = halt .endlessListing := by
        change (host.lenient listings pages).gatherFrom (.runs filter) host.pageLimit none = _
        rw [hlimit, gatherFrom]
      rw [hstrict, hlenient]
      rfl
    · have hpage : (host.lenient listings pages).page (.runs filter) none =
          host.gather (.runs filter) >>= fun gathered => pure ⟨(forgiven true gathered).1, none⟩ := by
        have hempty : ∀ gathered : List WorkflowRun × Option HostError,
            (if gathered.2.isSome then [] else gathered.1) = (forgiven true gathered).1 := by
          intro gathered
          cases hrefused : gathered.2 <;> simp [forgiven, hrefused]
        simp only [lenient, hforgives, if_true, hempty]
      have hrefuses : ∀ s d e, (host.gather (.runs filter) s d).1 ≠ .error (.host e) :=
        fun s d e => host.gatherFrom_ne_refused _ _ _ s d e
      change (host.lenient listings pages).gatherFrom (.runs filter) host.pageLimit none = _
      rw [hlimit, gatherFrom, hpage, attempt_map hrefuses, bind_assoc]
      refine bind_congr fun gathered => ?_
      rw [pure_bind]
      rcases gathered with ⟨items, _ | e⟩ <;> rfl

theorem attempt_runsPage_lenient (number size : Int) :
    attempt ((host.lenient listings pages).runsPage number size) =
      attempt (host.runsPage number size) >>= fun answer =>
        pure (if pages number then .ok (answer.toOption.getD []) else answer) := by
  rcases hforgives : pages number with _ | _
  · simp [lenient, hforgives]
  · have hpage : (host.lenient listings pages).runsPage number size =
        attempt (host.runsPage number size) >>= fun answer => pure (answer.toOption.getD []) := by
      simp only [lenient, hforgives, if_true]
    have hrefuses : ∀ s d e, (attempt (host.runsPage number size) s d).1 ≠ .error (.host e) := by
      intro s d e
      unfold attempt
      rcases host.runsPage number size s d with ⟨(e' | f) | runs, d'⟩ <;> simp
    rw [hpage, attempt_map hrefuses]
    rfl

end Host

namespace Governor

variable {g : Governor σ} {listings : RunFilter → Bool} {pages : Int → Bool}

theorem record_blind (level : LogLevel) (logger message : String) :
    (record level logger message : Act σ Unit).Blind :=
  fun _ _ _ hsame => .result ⟨rfl, hsame⟩

theorem request_lenient (kind : ActionKind) (r : WorkflowRun) :
    (g.lenient listings pages).request kind r = g.request kind r := by
  cases kind <;> rfl

theorem obey_lenient (l : Ledger) (o : Order) : (g.lenient listings pages).obey l o = g.obey l o := by
  simp only [obey, apply, enact, mutate, request_lenient]
  rfl

/-! ## Passes on lenient hosts -/

variable (h : g.Blind)
include h

theorem obey_blind (l : Ledger) (o : Order) : (g.obey l o).Blind := by
  have hmutate : (g.mutate o.kind o.policy o.run).Blind := by
    unfold Act.Blind mutate
    split
    · exact alike_pure _
    · refine Alike.bind (h.request o.kind o.run).attempt fun answer => ?_
      split
      · exact Alike.bind (record_blind _ _ _) fun _ => alike_pure _
      · exact alike_pure _
  have henact : (g.enact o.kind o.policy o.reason l o.run).Blind := by
    unfold Act.Blind enact
    split
    · exact alike_pure _
    · exact Alike.bind hmutate fun outcome => alike_pure _
  refine Alike.bind henact fun p => Alike.bind ?_ fun _ => alike_pure _
  cases p.2 with
  | none => exact alike_pure ()
  | some a => exact record_blind _ _ _

theorem obey_alike (l : Ledger) (o : Order) :
    Alike Desk.SameWorld (g.obey l o) ((g.lenient listings pages).obey l o) := by
  rw [obey_lenient]
  exact obey_blind h l o

theorem gather_blind (listing : Listing) : (g.host.gather listing).Blind :=
  Host.gather_alike rfl (h.page listing)

theorem listRuns_lenient (filter : RunFilter) :
    Paired Desk.SameWorld (g.listRuns filter) ((g.lenient listings pages).listRuns filter)
      (SameWork Desk.SameWorld (· = none) (some [])) Desk.SameWorld := by
  unfold listRuns
  change Paired _ (attempt (g.host.collect (.runs filter)) >>= _)
    (attempt ((g.host.lenient listings pages).collect (.runs filter)) >>= _) _ _
  rw [Host.attempt_collect, Host.attempt_collect, Host.gather_lenient_runs, bind_assoc, bind_assoc, bind_assoc]
  refine Alike.then (gather_blind h _) (fun _ _ hsame => hsame) fun gathered => ?_
  rw [pure_bind, pure_bind, pure_bind]
  rcases gathered with ⟨items, _ | e⟩
  · have hkept : Host.forgiven (listings filter) (items, none) = (items, none) := by
      simp [Host.forgiven]
    rw [hkept]
    exact paired_pure fun _ _ hsame => .same hsame
  · cases hforgives : listings filter with
    | false =>
      refine Alike.then (record_blind _ _ _) (fun _ _ hsame => hsame) fun _ => ?_
      exact paired_pure fun _ _ hsame => .same hsame
    | true => exact fun _ _ _ hsame => .result (.spared rfl fun _ _ => hsame)

theorem runsPage_lenient (number : Int) :
    Paired Desk.SameWorld (attempt (g.host.runsPage number 100))
      (attempt ((g.lenient listings pages).host.runsPage number 100))
      (SameWork Desk.SameWorld (fun answer => ∃ e, answer = .error e) (.ok [])) Desk.SameWorld := by
  have hpage : attempt ((g.lenient listings pages).host.runsPage number 100) = _ :=
    Host.attempt_runsPage_lenient number 100
  rw [hpage, ← bind_pure (attempt (g.host.runsPage number 100)), bind_assoc]
  refine Alike.then (h.runsPage number 100).attempt (fun _ _ hsame => hsame) fun answer => ?_
  rw [pure_bind]
  cases answer with
  | ok runs =>
    simp only [Except.toOption, Option.getD_some, ite_self]
    exact paired_pure fun _ _ hsame => .same hsame
  | error e =>
    cases pages number with
    | false => exact paired_pure fun _ _ hsame => .same hsame
    | true => exact paired_pure fun _ _ hsame => .spared ⟨e, rfl⟩ fun _ _ => hsame

theorem openPullRequests_lenient :
    Alike Desk.SameWorld g.openPullRequests (g.lenient listings pages).openPullRequests := by
  have hpulls : attempt ((g.lenient listings pages).host.collect .pullRequests) =
      attempt (g.host.collect .pullRequests) := by
    rw [Host.attempt_collect, Host.attempt_collect]
    change (g.host.lenient listings pages).gather .pullRequests >>= _ = _
    rw [Host.gather_lenient .pullRequests (by simp)]
  have hcollect : (attempt (g.host.collect .pullRequests)).Blind := by
    rw [Host.attempt_collect]
    exact Alike.bind (gather_blind h _) fun _ => alike_pure _
  refine openPullRequests_alike ?_ record_blind
  rw [hpulls]
  exact hcollect

/-- A governor finds the same work on a lenient host. -/
theorem lenient_workalike :
    Workalike g (g.lenient listings pages) fun l l' d e => l = l' ∧ d.SameWorld e where
  settings := rfl
  listRuns l l' filter := by
    rintro s d e ⟨rfl, hsame⟩
    exact (listRuns_lenient h filter s d e hsame).mono (fun _ _ _ _ hfound => hfound.given rfl)
      fun _ _ hlost => ⟨rfl, hlost⟩
  openPullRequests l l' := Alike.given (openPullRequests_lenient h)
  runsPage l l' number := by
    rintro s d e ⟨rfl, hsame⟩
    exact (runsPage_lenient h number s d e hsame).mono (fun _ _ _ _ hfound => hfound.given rfl)
      fun _ _ hlost => ⟨rfl, hlost⟩
  clock l l' := Alike.given h.clock
  record l l' level logger message := Alike.given (record_blind level logger message)
  obey l l' o := by
    rintro s d e ⟨rfl, hsame⟩
    refine (obey_alike h l o s d e hsame).mono (fun _ _ _ _ hres => hres) fun _ _ hfail => ?_
    exact ⟨rfl, hfail⟩

/-- **Refusals count as empty listings**: a pass does the same and comes to the same report when its host shows
nothing in place of refusals. -/
theorem runPass_lenient (branches : List Branch) :
    Alike Desk.SameWorld (g.runPass branches) ((g.lenient listings pages).runPass branches) :=
  (lenient_workalike h).runPass_alike rfl branches

end Governor

end RunSteward
