import RunSteward.Proofs.Governance.Survey

/-!
# Findings of a pass

Every pass that comes to its end has made a survey and obeyed the orders of that survey, and these are all
its lookups and all its requests (`runPass_surveyed`). The proof goes through the acts of a pass with
rules for what a watched act tells, that is, which lookups and calls it adds for the result it gives
(`Act.Tells`).
-/

namespace RunSteward

variable {σ α β : Type}

/-! ## What acts tell -/

/-- A watched desk with more lookups and calls than before. -/
def Desk.Grew (d d' : Desk (Watched σ)) (lookups : List Lookup) (calls : List Call) : Prop :=
  d'.world.lookups = d.world.lookups ++ lookups ∧ d'.world.calls = d.world.calls ++ calls

theorem Desk.Grew.trans {d d' d'' : Desk (Watched σ)} {lookups lookups' : List Lookup}
    {calls calls' : List Call} (h : d.Grew d' lookups calls) (h' : d'.Grew d'' lookups' calls') :
    d.Grew d'' (lookups ++ lookups') (calls ++ calls') := by
  obtain ⟨hlookups, hcalls⟩ := h
  obtain ⟨hlookups', hcalls'⟩ := h'
  constructor
  · rw [hlookups', hlookups, List.append_assoc]
  · rw [hcalls', hcalls, List.append_assoc]

namespace Act

/-- A watched act adds lookups and calls in any case, and those that it adds for a result satisfy `P`. -/
def Tells (x : Act (Watched σ) α) (P : α → List Lookup → List Call → Prop) : Prop :=
  ∀ s d, ∃ lookups calls, d.Grew (x s d).2 lookups calls ∧
    ∀ a, (x s d).1 = .ok a → P a lookups calls

section Tells

variable {x : Act (Watched σ) α} {P Q : α → List Lookup → List Call → Prop}

theorem tells_pure {a : α} (h : P a [] []) : Tells (pure a : Act (Watched σ) α) P := by
  intro s d
  refine ⟨[], [], by simp [Desk.Grew], ?_⟩
  rintro b ⟨⟩
  exact h

theorem tells_fail (f : Failure) : Tells (fail f : Act (Watched σ) α) P := by
  intro s d
  exact ⟨[], [], by simp [Desk.Grew, fail], by simp [fail]⟩

theorem tells_record (level : LogLevel) (logger message : String) :
    Tells (record level logger message : Act (Watched σ) Unit)
      fun _ lookups calls => lookups = [] ∧ calls = [] := by
  intro s d
  exact ⟨[], [], by simp [Desk.Grew, record], by simp⟩

theorem Tells.mono (h : Tells x P) (hPQ : ∀ a lookups calls, P a lookups calls → Q a lookups calls) :
    Tells x Q := by
  intro s d
  obtain ⟨lookups, calls, hgrew, hres⟩ := h s d
  exact ⟨lookups, calls, hgrew, fun a ha => hPQ _ _ _ (hres a ha)⟩

theorem Tells.bind {f : α → Act (Watched σ) β} {Q : β → List Lookup → List Call → Prop}
    (hx : Tells x P)
    (hf : ∀ a lookups calls, P a lookups calls →
      Tells (f a) fun b lookups' calls' => Q b (lookups ++ lookups') (calls ++ calls')) :
    Tells (x >>= f) Q := by
  intro s d
  obtain ⟨lookups, calls, hgrew, hres⟩ := hx s d
  rcases hend : x s d with ⟨e | a, d₁⟩
  · rw [bind_of_error f hend]
    rw [hend] at hgrew
    exact ⟨lookups, calls, hgrew, by simp⟩
  · rw [bind_of_ok f hend]
    rw [hend] at hgrew hres
    obtain ⟨lookups', calls', hgrew', hres'⟩ := hf a lookups calls (hres a rfl) s d₁
    exact ⟨_, _, hgrew.trans hgrew', hres'⟩

theorem Tells.after {f : α → Act (Watched σ) β} {Q : β → List Lookup → List Call → Prop}
    (hx : Tells x fun _ lookups calls => lookups = [] ∧ calls = []) (hf : ∀ a, Tells (f a) Q) :
    Tells (x >>= f) Q := by
  refine Tells.bind hx ?_
  rintro a _ _ ⟨rfl, rfl⟩
  exact hf a

theorem Tells.outcome (h : Tells x P) :
    Tells (outcome x) fun r lookups calls => ∀ a, r = .ok a → P a lookups calls := by
  intro s d
  obtain ⟨lookups, calls, hgrew, hres⟩ := h s d
  refine ⟨lookups, calls, hgrew, ?_⟩
  rintro r ⟨⟩
  exact hres

theorem tells_conclude (r : Except Failure α) :
    Tells (conclude r : Act (Watched σ) α)
      fun a lookups calls => r = .ok a ∧ lookups = [] ∧ calls = [] := by
  cases r with
  | error f => exact tells_fail f
  | ok a => exact tells_pure ⟨rfl, rfl, rfl⟩

theorem Tells.within (change : Scope → Scope) (h : Tells x P) : Tells (within change x) P :=
  fun s d => h (change s) d

/-! ### Watched acts

A note of an answer only adds to what was kept: the lookups and calls that it adds are given as functions of
the answer. -/

section Watched

variable (x : Act σ α) (note : Except Failure α → Watched σ → Watched σ)
  (lookups : Except Failure α → List Lookup) (calls : Except Failure α → List Call)
  (hnote : ∀ a w, (note a w).lookups = w.lookups ++ lookups a ∧ (note a w).calls = w.calls ++ calls a)

include hnote

theorem watched_grew (s : Scope) (d : Desk (Watched σ)) :
    d.Grew (x.watched note s d).2 (lookups (x.watched note s d).1) (calls (x.watched note s d).1) :=
  hnote _ _

theorem tells_watched :
    Tells (x.watched note) fun a ls cs => ls = lookups (.ok a) ∧ cs = calls (.ok a) := by
  intro s d
  refine ⟨_, _, watched_grew x note lookups calls hnote s d, ?_⟩
  intro a ha
  rw [ha]
  exact ⟨rfl, rfl⟩

theorem tells_attempt_watched :
    Tells (attempt (x.watched note)) fun answer ls cs =>
      ls = lookups (answer.mapError Failure.host) ∧ cs = calls (answer.mapError Failure.host) := by
  intro s d
  have hgrew := watched_grew x note lookups calls hnote s d
  rcases hend : x.watched note s d with ⟨(e | f) | a, d₁⟩ <;> rw [hend] at hgrew
  · rw [attempt_of_refusal hend]
    exact ⟨_, _, hgrew, by rintro _ ⟨⟩; exact ⟨rfl, rfl⟩⟩
  · rw [attempt_of_fault hend]
    exact ⟨_, _, hgrew, by simp⟩
  · rw [attempt_of_ok hend]
    exact ⟨_, _, hgrew, by rintro _ ⟨⟩; exact ⟨rfl, rfl⟩⟩

end Watched

end Tells

end Act

/-! ## Listings -/

open Act

variable {g : Governor σ}

namespace Host

/-- Walking through pages never ends with a host error of its own: a refused page is part of the result. -/
theorem gatherFrom_ne_refused (host : Host σ) (listing : Listing) (limit : Nat) (cursor : Option Cursor)
    (s : Scope) (d : Desk σ) (e : HostError) :
    (host.gatherFrom listing limit cursor s d).1 ≠ .error (.host e) := by
  induction limit generalizing cursor d with
  | zero => simp [gatherFrom, halt, fail]
  | succ limit ih =>
    rw [gatherFrom]
    rcases hpage : host.page listing cursor s d with ⟨(e' | f) | ⟨items, _ | next⟩, d₁⟩
    · rw [bind_of_ok _ (attempt_of_refusal hpage)]
      simp
    · rw [bind_of_error _ (attempt_of_fault hpage)]
      simp
    · rw [bind_of_ok _ (attempt_of_ok hpage)]
      simp
    · rw [bind_of_ok _ (attempt_of_ok hpage)]
      dsimp only
      rcases hrest : host.gatherFrom listing limit (some next) s d₁ with ⟨f | rest, d₂⟩
      · rw [bind_of_error _ hrest]
        have hne := ih (some next) d₁
        rw [hrest] at hne
        exact hne
      · rw [bind_of_ok _ hrest]
        simp

/-- An attempt to collect a listing gives all items, or the error of the page that was refused. -/
theorem attempt_collect (host : Host σ) (listing : Listing) :
    attempt (host.collect listing) = host.gather listing >>= fun gathered =>
      pure (match gathered.2 with | none => .ok gathered.1 | some e => .error e) := by
  funext s d
  unfold collect
  rcases hgather : host.gather listing s d with ⟨(e | f) | ⟨items, _ | e⟩, d₁⟩
  · have hne := host.gatherFrom_ne_refused listing host.pageLimit none s d e
    exact absurd (congrArg Prod.fst hgather) hne
  · rw [bind_of_error _ hgather]
    exact attempt_of_fault (bind_of_error _ hgather)
  · rw [bind_of_ok _ hgather]
    exact attempt_of_ok (bind_of_ok _ hgather)
  · rw [bind_of_ok _ hgather]
    exact attempt_of_refusal (bind_of_ok _ hgather)

theorem tells_gatherFrom (host : Host σ) (listing : Listing) (limit : Nat) (cursor : Option Cursor) :
    Tells (host.watched.gatherFrom listing limit cursor) fun gathered lookups calls =>
      Walk listing cursor lookups gathered.1 gathered.2 ∧ calls = [] := by
  induction limit generalizing cursor with
  | zero => exact tells_fail _
  | succ limit ih =>
    refine Tells.bind (tells_attempt_watched (host.page listing cursor)
      (fun answer w => w.lookedUp (.page listing cursor answer))
      (fun answer => [.page listing cursor answer]) (fun _ => [])
      fun _ _ => ⟨rfl, (List.append_nil _).symm⟩) ?_
    rintro (e | ⟨items, _ | next⟩) _ _ ⟨rfl, rfl⟩
    · exact tells_pure ⟨.refused cursor e, rfl⟩
    · exact tells_pure ⟨.last cursor items, rfl⟩
    · refine Tells.bind (ih (some next)) ?_
      rintro ⟨rest, error⟩ lookups _ ⟨hwalk, rfl⟩
      refine tells_pure ⟨?_, rfl⟩
      rw [List.append_nil]
      exact .further cursor items next hwalk

/-- An attempt to collect a watched listing tells how it was walked through. -/
theorem tells_collect (host : Host σ) (listing : Listing) :
    Tells (attempt (host.watched.collect listing)) fun answer lookups calls =>
      (∃ f : Found listing, lookups = f.lookups ∧ answer.toOption = f.all?) ∧ calls = [] := by
  rw [attempt_collect]
  refine Tells.bind (host.tells_gatherFrom listing _ none) ?_
  rintro ⟨items, error⟩ lookups _ ⟨hwalk, rfl⟩
  refine tells_pure ⟨⟨⟨lookups, items, error, hwalk⟩, by simp, ?_⟩, rfl⟩
  cases error <;> rfl

end Host

namespace Governor

theorem tells_listRuns (g : Governor σ) (filter : RunFilter) :
    Tells (g.watched.listRuns filter) fun runs lookups calls =>
      (∃ f : Found (.runs filter), lookups = f.lookups ∧ runs = f.all?) ∧ calls = [] := by
  refine Tells.bind (g.host.tells_collect (.runs filter)) ?_
  rintro (e | runs) _ _ ⟨⟨f, rfl, hall⟩, rfl⟩
  · refine Tells.after (tells_record _ _ _) fun _ => ?_
    exact tells_pure ⟨⟨f, by simp, hall⟩, rfl⟩
  · exact tells_pure ⟨⟨f, by simp, hall⟩, rfl⟩

theorem tells_openPullRequests (g : Governor σ) :
    Tells g.watched.openPullRequests fun pulls lookups calls =>
      (∃ f : Found .pullRequests, lookups = f.lookups ∧ pulls = f.all?) ∧ calls = [] := by
  refine Tells.bind (g.host.tells_collect .pullRequests) ?_
  rintro (e | pulls) _ _ ⟨⟨f, rfl, hall⟩, rfl⟩ <;> refine Tells.bind (tells_record _ _ _) ?_ <;>
    rintro _ _ _ ⟨rfl, rfl⟩ <;> exact tells_pure ⟨⟨f, by simp, hall⟩, rfl⟩

/-! ## Orders -/

theorem tells_mutate (g : Governor σ) (kind : ActionKind) (policy : Policy) (r : WorkflowRun) :
    Tells (g.watched.mutate kind policy r) fun outcome lookups calls =>
      lookups = [] ∧
        ((g.rehearsal = true ∧ outcome = .planned ∧ calls = []) ∨
          (g.rehearsal = false ∧ ∃ answer, outcome = outcomeOf answer ∧
            calls = [⟨kind, r, answer.mapError Failure.host⟩])) := by
  unfold mutate
  rcases hrehearsal : g.rehearsal with _ | _
  · rw [if_neg (by simp [watched, hrehearsal]), request_watched]
    refine Tells.bind (tells_attempt_watched (g.request kind r)
      (fun answer w => w.called ⟨kind, r, answer⟩) (fun _ => []) (fun answer => [⟨kind, r, answer⟩])
      fun _ _ => ⟨(List.append_nil _).symm, rfl⟩) ?_
    rintro answer _ _ ⟨rfl, rfl⟩
    split
    · refine Tells.after (tells_record _ _ _) fun _ => tells_pure ⟨rfl, .inr ⟨rfl, _, ?_, rfl⟩⟩
      exact Eq.symm ‹_›
    · exact tells_pure ⟨rfl, .inr ⟨rfl, _, rfl, rfl⟩⟩
  · rw [if_pos (by simp [watched, hrehearsal])]
    exact tells_pure ⟨rfl, .inl ⟨rfl, rfl, rfl⟩⟩

theorem tells_obey (g : Governor σ) (l : Ledger) (o : Order) :
    Tells (g.watched.obey l o) fun l' lookups calls =>
      lookups = [] ∧ Obeyed g.rehearsal l [o] l' calls := by
  rcases halready : l.already o.kind o.run.id with _ | _
  · rw [obey_of_fresh halready]
    refine Tells.bind (g.tells_mutate _ _ _) ?_
    rintro outcome _ calls ⟨rfl, hend⟩
    refine Tells.after (tells_record _ _ _) fun _ => ?_
    refine tells_pure ⟨rfl, ?_⟩
    rcases hend with ⟨hrehearsal, rfl, rfl⟩ | ⟨hreal, answer, rfl, rfl⟩
    · exact .planned hrehearsal halready (.nil _)
    · exact .sent hreal halready answer (.nil _)
  · rw [obey_eq, enact_of_already halready]
    exact tells_pure ⟨rfl, .already halready (.nil l)⟩

theorem tells_obeyAll (g : Governor σ) (l : Ledger) (os : List Order) :
    Tells (g.watched.obeyAll l os) fun l' lookups calls =>
      lookups = [] ∧ Obeyed g.rehearsal l os l' calls := by
  induction os generalizing l with
  | nil => exact tells_pure ⟨rfl, .nil l⟩
  | cons o os ih =>
    rw [obeyAll_cons]
    refine Tells.bind (g.tells_obey l o) ?_
    rintro l₁ _ calls ⟨rfl, hfirst⟩
    refine (ih l₁).mono ?_
    rintro l' _ calls' ⟨rfl, hrest⟩
    exact ⟨rfl, hfirst.append hrest⟩

/-! ## Queued duplicates -/

theorem tells_cancelEach (g : Governor σ) (l : Ledger) (runs : List WorkflowRun) :
    Tells (g.watched.cancelEach l runs) fun p lookups calls =>
      p.2 = .ok () → lookups = [] ∧
        Obeyed g.rehearsal l (runs.map fun r => ⟨.duplicateQueued, .cancel, .superseded, r⟩) p.1 calls := by
  induction runs generalizing l with
  | nil => exact tells_pure fun _ => ⟨rfl, .nil l⟩
  | cons r runs ih =>
    refine Tells.bind (g.tells_obey l ⟨.duplicateQueued, .cancel, .superseded, r⟩).outcome ?_
    rintro (e | l₁) lookups calls htold
    · exact tells_pure (by simp)
    · obtain ⟨rfl, hfirst⟩ := htold l₁ rfl
      refine (ih l₁).mono fun p lookups' calls' hrest hended => ?_
      obtain ⟨rfl, hobeyed⟩ := hrest hended
      exact ⟨rfl, hfirst.append hobeyed⟩

theorem tells_cancelDuplicates (g : Governor σ) (filter : RunFilter) (l : Ledger) :
    Tells (g.watched.cancelDuplicates filter l) fun p lookups calls =>
      ∀ runs, p.2 = .ok runs → ∃ f : Found (.runs filter), lookups = f.lookups ∧ runs = f.work ∧
        Obeyed g.rehearsal l (Order.ofDuplicates f.work) p.1 calls := by
  refine Tells.bind (g.tells_listRuns filter).outcome ?_
  rintro (e | found) lookups calls htold
  · exact tells_pure (by simp)
  · obtain ⟨⟨f, rfl, rfl⟩, rfl⟩ := htold found rfl
    rcases hall : f.all? with _ | runs
    · refine tells_pure ?_
      rintro runs ⟨⟩
      have hwork : f.work = [] := by simp [Found.work, hall]
      refine ⟨f, by simp, hwork.symm, ?_⟩
      rw [hwork, Order.ofDuplicates_nil]
      exact .nil l
    · have hwork : f.work = runs := by simp [Found.work, hall]
      refine Tells.after (tells_record _ _ _) fun _ => ?_
      refine Tells.bind (g.tells_cancelEach l (duplicateRuns runs)) ?_
      rintro ⟨l', _ | _⟩ lookups calls htold
      · exact tells_pure (by simp [Except.map])
      · obtain ⟨rfl, hobeyed⟩ := htold rfl
        refine tells_pure ?_
        rintro _ ⟨⟩
        refine ⟨f, by simp, hwork.symm, ?_⟩
        rw [hwork, List.append_nil]
        exact hobeyed

theorem tells_cancelInBranches (g : Governor σ) (l : Ledger) (branches : List Branch) :
    Tells (g.watched.cancelInBranches l branches) fun p lookups calls =>
      p.2 = .ok () → ∃ found : List ((b : Branch) × Found (.runs (.queuedOn b))),
        found.map Sigma.fst = branches ∧ lookups = found.flatMap (fun b => b.2.lookups) ∧
        Obeyed g.rehearsal l (found.flatMap fun b => Order.ofDuplicates b.2.work) p.1 calls := by
  induction branches generalizing l with
  | nil => exact tells_pure fun _ => ⟨[], rfl, rfl, .nil l⟩
  | cons b branches ih =>
    refine Tells.bind ((g.tells_cancelDuplicates (.queuedOn b) l).within (Scope.worker 0)) ?_
    rintro ⟨l₁, ended⟩ lookups calls hfirst
    refine Tells.bind (ih l₁) ?_
    rintro ⟨l', later⟩ lookups' calls' hrest
    rcases ended with e | runs
    · exact tells_pure (by simp)
    · refine tells_pure ?_
      rintro rfl
      obtain ⟨f, rfl, rfl, hobeyed⟩ := hfirst runs rfl
      obtain ⟨found, rfl, rfl, hobeyed'⟩ := hrest rfl
      refine ⟨⟨b, f⟩ :: found, rfl, by simp, ?_⟩
      simpa using hobeyed.append hobeyed'

theorem tells_cancelQueuedDuplicates (g : Governor σ) (branches : List Branch) :
    Tells (g.watched.cancelQueuedDuplicates branches {}) fun p lookups calls =>
      ∃ (found : List ((b : Branch) × Found (.runs (.queuedOn b)))) (f : Found (.runs .queuedOfPulls)),
        found.map Sigma.fst = branches ∧ p.2 = f.work ∧
        lookups = found.flatMap (fun b => b.2.lookups) ++ f.lookups ∧
        Obeyed g.rehearsal {} ((found.flatMap fun b => Order.ofDuplicates b.2.work)
          ++ Order.ofDuplicates f.work) p.1 calls := by
  refine Tells.bind (g.tells_cancelInBranches {} branches) ?_
  rintro ⟨l, ended⟩ lookups calls hbranches
  refine Tells.bind (tells_conclude ended) ?_
  rintro _ _ _ ⟨rfl, rfl, rfl⟩
  obtain ⟨found, hfst, rfl, hobeyed⟩ := hbranches rfl
  refine Tells.bind (g.tells_cancelDuplicates .queuedOfPulls l) ?_
  rintro ⟨l', runs⟩ lookups' calls' hpulls
  refine Tells.bind (tells_conclude runs) ?_
  rintro runs _ _ ⟨rfl, rfl, rfl⟩
  obtain ⟨f, rfl, rfl, hobeyed'⟩ := hpulls runs rfl
  refine tells_pure ⟨found, f, hfst, rfl, by simp, ?_⟩
  simpa using hobeyed.append hobeyed'

/-! ## The other policies -/

theorem tells_clearOrphans (g : Governor σ) (runs : List WorkflowRun) (pulls : List PullRequest)
    (l : Ledger) :
    Tells (g.watched.clearOrphans runs pulls l) fun l' lookups calls =>
      lookups = [] ∧ Obeyed g.rehearsal l (Order.ofOrphans runs pulls) l' calls := by
  rw [clearOrphans_eq]
  exact g.tells_obeyAll l _

theorem tells_purgeAll (g : Governor σ) (now : Stamp) (runs : List WorkflowRun) (l : Ledger) :
    Tells (runs.foldlM (g.watched.purgeRun now) l) fun l' lookups calls =>
      lookups = [] ∧ Obeyed g.rehearsal l (runs.flatMap (Order.ofExpiry g.settings now)) l' calls := by
  induction runs generalizing l with
  | nil => exact tells_pure ⟨rfl, .nil l⟩
  | cons r runs ih =>
    rw [List.foldlM_cons]
    rcases hexpiry : r.expiry g.watched.settings now with f | x
    · rw [purgeRun, hexpiry]
      exact Tells.bind (tells_fail (P := fun _ _ _ => False) (.fault f)) fun _ _ _ h => h.elim
    · rw [purgeRun_eq hexpiry]
      refine Tells.bind (g.tells_obeyAll l _) ?_
      rintro l₁ _ calls ⟨rfl, hfirst⟩
      refine (ih l₁).mono ?_
      rintro l' _ calls' ⟨rfl, hrest⟩
      exact ⟨rfl, hfirst.append hrest⟩

theorem tells_purgePage (g : Governor σ) (now : Stamp) (l : Ledger) (page : Int) :
    Tells (g.watched.purgePage now l page) fun l' lookups calls =>
      ∃ p : Scan, p.number = page ∧ lookups = [p.lookup] ∧
        Obeyed g.rehearsal l (p.work.flatMap (Order.ofExpiry g.settings now)) l' calls := by
  refine Tells.bind (tells_attempt_watched (g.host.runsPage page 100)
    (fun answer w => w.lookedUp (.runsPage page 100 answer))
    (fun answer => [.runsPage page 100 answer]) (fun _ => [])
    fun _ _ => ⟨rfl, (List.append_nil _).symm⟩) ?_
  rintro (e | runs) _ _ ⟨rfl, rfl⟩
  · refine Tells.after (tells_record _ _ _) fun _ => ?_
    exact tells_pure ⟨⟨page, .error e⟩, rfl, rfl, .nil l⟩
  · refine Tells.after (tells_record _ _ _) fun _ => ?_
    refine (g.tells_purgeAll now runs l).mono ?_
    rintro l' _ calls ⟨rfl, hobeyed⟩
    exact ⟨⟨page, .ok runs⟩, rfl, rfl, hobeyed⟩

theorem tells_purgeDown (g : Governor σ) (now : Stamp) (count : Nat) (l : Ledger) :
    Tells (g.watched.purgeDown now count l) fun l' lookups calls =>
      ∃ pages : List Scan, pages.map Scan.number = pagesDown count ∧
        lookups = pages.map Scan.lookup ∧
        Obeyed g.rehearsal l (pages.flatMap fun p => p.work.flatMap (Order.ofExpiry g.settings now)) l'
          calls := by
  induction count generalizing l with
  | zero => exact tells_pure ⟨[], rfl, rfl, .nil l⟩
  | succ page ih =>
    refine Tells.bind (g.tells_purgePage now l _) ?_
    rintro l₁ _ calls ⟨p, hnumber, rfl, hfirst⟩
    refine (ih l₁).mono ?_
    rintro l' _ calls' ⟨pages, hnumbers, rfl, hrest⟩
    refine ⟨p :: pages, ?_, rfl, ?_⟩
    · rw [List.map_cons, hnumber, hnumbers, pagesDown]
    · rw [List.flatMap_cons]
      exact hfirst.append hrest

theorem tells_purge (g : Governor σ) (l : Ledger) :
    Tells (g.watched.purge l) fun l' lookups calls =>
      ∃ (now : Stamp) (pages : List Scan),
        pages.map Scan.number = pagesDown g.settings.retentionPageCount.toNat ∧
        lookups = .clock (.ok now) :: pages.map Scan.lookup ∧
        Obeyed g.rehearsal l (pages.flatMap fun p => p.work.flatMap (Order.ofExpiry g.settings now)) l'
          calls := by
  refine Tells.bind (tells_watched g.clock (fun answer w => w.lookedUp (.clock answer))
    (fun answer => [.clock answer]) (fun _ => []) fun _ _ => ⟨rfl, (List.append_nil _).symm⟩) ?_
  rintro now _ _ ⟨rfl, rfl⟩
  refine (g.tells_purgeDown now _ l).mono ?_
  rintro l' _ calls ⟨pages, hnumbers, rfl, hobeyed⟩
  exact ⟨now, pages, hnumbers, rfl, hobeyed⟩

theorem tells_listed (g : Governor σ) (filter : RunFilter)
    {rest : Option (List WorkflowRun) → Act (Watched σ) β} {P : List WorkflowRun → β → List Call → Prop}
    (hrest : ∀ runs, Tells (rest runs) fun b lookups calls => lookups = [] ∧ P (runs.getD []) b calls) :
    Tells (g.watched.listRuns filter >>= rest) fun b lookups calls =>
      ∃ f : Found (.runs filter), lookups = f.lookups ∧ P f.work b calls := by
  refine Tells.bind (g.tells_listRuns filter) ?_
  rintro _ _ _ ⟨⟨f, rfl, rfl⟩, rfl⟩
  refine (hrest f.all?).mono ?_
  rintro b _ calls ⟨rfl, hP⟩
  exact ⟨f, List.append_nil _, hP⟩

theorem tells_sweepCancelled (g : Governor σ) (l : Ledger) :
    Tells (g.watched.sweepCancelled l) fun l' lookups calls =>
      ∃ f : Found (.runs .cancelled), lookups = f.lookups ∧
        Obeyed g.rehearsal l (Order.ofCancelled f.work) l' calls := by
  refine g.tells_listed .cancelled (P := fun runs l' calls =>
    Obeyed g.rehearsal l (Order.ofCancelled runs) l' calls) ?_
  rintro (_ | runs)
  · exact tells_pure ⟨rfl, .nil l⟩
  · refine Tells.after (tells_record _ _ _) fun _ => ?_
    rw [sweep_eq]
    exact g.tells_obeyAll l _

theorem tells_prune (g : Governor σ) (pulls : List PullRequest) (l : Ledger) :
    Tells (g.watched.prune pulls l) fun l' lookups calls =>
      ∃ f : Found (.runs .ofPulls), lookups = f.lookups ∧
        Obeyed g.rehearsal l (f.work.flatMap (Order.ofPruning g.settings pulls)) l' calls := by
  refine g.tells_listed .ofPulls (P := fun runs l' calls =>
    Obeyed g.rehearsal l (runs.flatMap (Order.ofPruning g.settings pulls)) l' calls) ?_
  rintro (_ | runs)
  · exact tells_pure ⟨rfl, .nil l⟩
  · refine Tells.after (tells_record _ _ _) fun _ => ?_
    rw [pruneAll_eq]
    exact g.tells_obeyAll l _

/-! ## The pass -/

theorem tells_runPolicies (g : Governor σ) (branches : List Branch) :
    Tells (g.watched.runPolicies branches) fun l lookups calls =>
      ∃ v : Survey g.settings branches, lookups = v.lookups ∧ Obeyed g.rehearsal {} v.orders l calls := by
  refine Tells.bind (g.tells_cancelQueuedDuplicates branches) ?_
  rintro ⟨l, queued⟩ _ calls ⟨onBranches, fqueued, hfst, rfl, rfl, hduplicates⟩
  refine Tells.bind g.tells_openPullRequests ?_
  rintro _ _ _ ⟨⟨fpulls, rfl, rfl⟩, rfl⟩
  rcases hall : fpulls.all? with _ | pulls
  · refine Tells.bind (tells_pure (P := fun l' lookups calls => l = l' ∧ lookups = [] ∧ calls = [])
      ⟨rfl, rfl, rfl⟩) ?_
    rintro _ _ _ ⟨rfl, rfl, rfl⟩
    refine Tells.bind (g.tells_purge l) ?_
    rintro l₂ _ calls₂ ⟨now, pages, hnumbers, rfl, hpurged⟩
    refine Tells.bind (g.tells_sweepCancelled l₂) ?_
    rintro l₃ _ calls₃ ⟨fcancelled, rfl, hswept⟩
    refine tells_pure ⟨⟨onBranches, hfst, fqueued, fpulls, now, pages, hnumbers, fcancelled, none,
      by simp [hall]⟩, by simp [Survey.lookups], ?_⟩
    simpa [Survey.orders, hall] using (hduplicates.append hpurged).append hswept
  · refine Tells.bind (g.tells_clearOrphans fqueued.work pulls l) ?_
    rintro l₁ _ calls₁ ⟨rfl, hcleared⟩
    refine Tells.bind (g.tells_purge l₁) ?_
    rintro l₂ _ calls₂ ⟨now, pages, hnumbers, rfl, hpurged⟩
    refine Tells.bind (g.tells_sweepCancelled l₂) ?_
    rintro l₃ _ calls₃ ⟨fcancelled, rfl, hswept⟩
    refine (g.tells_prune pulls l₃).mono ?_
    rintro l₄ _ calls₄ ⟨fprunable, rfl, hpruned⟩
    refine ⟨⟨onBranches, hfst, fqueued, fpulls, now, pages, hnumbers, fcancelled, some fprunable,
      by simp [hall]⟩, by simp [Survey.lookups], ?_⟩
    simpa [Survey.orders, hall] using
      (((hduplicates.append hcleared).append hpurged).append hswept).append hpruned

theorem tells_runPass (g : Governor σ) (branches : List Branch) :
    Tells (g.watched.runPass branches) fun report lookups calls =>
      ∃ (v : Survey g.settings branches) (l : Ledger), lookups = v.lookups ∧
        Obeyed g.rehearsal {} v.orders l calls ∧ report = l.report := by
  refine Tells.after (tells_record _ _ _) fun _ => ?_
  refine Tells.bind (g.tells_runPolicies branches) ?_
  rintro l _ calls ⟨v, rfl, hobeyed⟩
  refine Tells.after (tells_record _ _ _) fun _ => ?_
  exact tells_pure ⟨v, l, by simp, by simpa using hobeyed, rfl⟩

/-- **A pass obeys the orders of its survey**: a report lists what came of these orders, and the lookups
and the requests of the pass are those of the survey and of the orders. -/
theorem runPass_surveyed {g : Governor σ} {branches : List Branch} {s : Scope} {d : Desk σ}
    {report : Report} (hreport : (g.runPass branches s d).1 = .ok report) :
    ∃ (v : Survey g.settings branches) (l : Ledger), g.lookups branches s d = v.lookups ∧
      Obeyed g.rehearsal {} v.orders l (g.calls branches s d) ∧ report = l.report := by
  obtain ⟨lookups, calls, ⟨hlookups, hcalls⟩, htold⟩ := g.tells_runPass branches s d.watched
  rw [← (g.runPass_watched branches s d).1] at hreport
  obtain ⟨v, l, rfl, hobeyed, hledger⟩ := htold report hreport
  have hcalls : g.calls branches s d = calls := hcalls.trans (List.nil_append _)
  refine ⟨v, l, hlookups.trans (List.nil_append _), ?_, hledger⟩
  rwa [hcalls]

end Governor

end RunSteward
