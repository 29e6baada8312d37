import RunSteward.Proofs.Act.Ending
import RunSteward.Proofs.Governance.Findings
import RunSteward.Proofs.Governance.StorePass

/-!
# Passes that end

Where every request is answered, orders are obeyed to the last one (`obeyAll_ends`), and a retention scan of
runs whose ages can be told goes through all its pages (`purgeDown_ends`). Both carry along what is known of the
world: orders keep it, and the scan may know something else before each page. On a host all of whose operations
give a result or a host error (`Host.Responds`) a whole pass comes to its end (`runPass_ends`).
-/

namespace RunSteward.Governor

open Act

variable {σ : Type} {g : Governor σ} {P Q : σ → Prop}

/-! ## Orders -/

/-- What an order asks for is recorded with its outcome once it is answered, or it would be a repetition. -/
theorem enact_recorded {o : Order} (h : Answers P (g.request o.kind o.run) fun _ => P) (l : Ledger) :
    Ends P (g.enact o.kind o.policy o.reason l o.run) fun p w =>
      (p.1 = l ∨ ∃ x, p.1 = l.record (o.action x)) ∧ P w := by
  intro s d hd
  rcases halready : l.already o.kind o.run.id with _ | _
  · rcases hrehearsal : g.rehearsal with _ | _
    · obtain ⟨answer, d', hrequest, hd'⟩ := h s d hd
      obtain ⟨log, henact⟩ := enact_of_answer answer halready hrehearsal hrequest
      exact ⟨_, _, henact, .inr ⟨_, rfl⟩, hd'⟩
    · exact ⟨_, _, enact_of_rehearsal (s := s) (d := d) halready hrehearsal, .inr ⟨.planned, rfl⟩, hd⟩
  · exact ⟨(l, none), d, by rw [enact_of_already halready, pure_apply], .inl rfl, hd⟩

theorem obey_ends {o : Order} (h : Answers P (g.request o.kind o.run) fun _ => P) (l : Ledger) :
    Ends P (g.obey l o) fun _ => P := by
  have hdone := (enact_recorded h l).mono (fun _ hP => hP) fun _ _ hend => hend.2
  rw [obey_eq]
  refine hdone.bind fun p => ?_
  have htold : Ends P (tell p.2) fun _ => P := (tell_notes p.2).ends fun _ hP => hP
  exact htold.bind fun _ => ends_pure fun _ hP => hP

theorem obeyAll_ends {os : List Order} (h : ∀ o ∈ os, Answers P (g.request o.kind o.run) fun _ => P)
    (l : Ledger) : Ends P (g.obeyAll l os) fun _ => P := by
  induction os generalizing l with
  | nil => exact ends_pure fun _ hP => hP
  | cons o os ih =>
    rw [obeyAll_cons]
    refine Ends.bind (obey_ends (h o (by simp)) l) fun l => ?_
    exact ih (fun o ho => h o (by simp [ho])) l

/-! ## The retention scan -/

/-- A run that can be purged: its age can be told, and requests for it are answered. -/
structure Purgeable (g : Governor σ) (P : σ → Prop) (r : WorkflowRun) : Prop where
  datable : r.Datable g.settings
  answers : ∀ kind, Answers P (g.request kind r) fun _ => P

theorem purgeAll_ends {runs : List WorkflowRun} (h : ∀ r ∈ runs, g.Purgeable P r) (now : Stamp) (l : Ledger) :
    Ends P (runs.foldlM (g.purgeRun now) l) fun _ => P := by
  rw [purgeAll_eq fun r hr => (h r hr).datable.expiry now]
  refine obeyAll_ends (fun o ho => ?_) l
  obtain ⟨r, hr, ho⟩ := List.mem_flatMap.mp ho
  rw [(Order.of_mem_ofExpiry ho).2.1]
  exact (h r hr).answers o.kind

theorem purgePage_ends {page : Int}
    (h : Answers P (g.host.runsPage page 100) fun answer w =>
      Q w ∧ ∀ r ∈ answer.toOption.getD [], g.Purgeable Q r) (now : Stamp) (l : Ledger) :
    Ends P (g.purgePage now l page) fun _ => Q := by
  refine Ends.bind h.attempt ?_
  rintro (e | runs)
  · refine Ends.bind (ends_record _ _ _) fun _ => ?_
    exact ends_pure fun _ hw => hw.1
  · refine Ends.bind (ends_record _ _ _) fun _ s d hd => ?_
    exact purgeAll_ends hd.2 now l s d hd.1

theorem purgeDown_ends {P : Nat → σ → Prop}
    (h : ∀ page, Answers (P (page + 1)) (g.host.runsPage (page + 1) 100) fun answer w =>
      P page w ∧ ∀ r ∈ answer.toOption.getD [], g.Purgeable (P page) r) (now : Stamp) (count : Nat)
    (l : Ledger) : Ends (P count) (g.purgeDown now count l) fun _ => P 0 := by
  induction count generalizing l with
  | zero => exact ends_pure fun _ hP => hP
  | succ page ih => exact Ends.bind (purgePage_ends (h page) now l) fun l => ih l

end RunSteward.Governor

namespace RunSteward

open Act

variable {σ : Type}

/-! ## Hosts that respond -/

/-- A host each of whose operations gives a result or raises a host error, in all worlds in `P`. Its listings are
finite, and the calendar reaches to the end of the retention periods of the runs on its pages. -/
structure Host.Responds (host : Host σ) (settings : GovernanceSettings) (P : σ → Prop) : Prop where
  page : ∀ listing cursor, Answers P (host.page listing cursor) fun _ => P
  finite : ∀ listing s d, P d.world → (host.gather listing s d).1 ≠ .error (.fault .endlessListing)
  runsPage : ∀ number, 1 ≤ number → Answers P (host.runsPage number 100) fun answer w =>
    P w ∧ ∀ r ∈ answer.toOption.getD [], r.Datable settings
  cancelRun : ∀ r, Answers P (host.cancelRun r) fun _ => P
  removeRun : ∀ r, Answers P (host.removeRun r) fun _ => P

namespace Host

variable {host : Host σ} {P : σ → Prop}

/-- A listing is walked through to its end, unless it has more pages than its host promised. -/
theorem gatherFrom_cases (hpage : ∀ listing cursor, Answers P (host.page listing cursor) fun _ => P)
    (listing : Listing) (limit : Nat) (cursor : Option Cursor) (s : Scope) (d : Desk σ) (hd : P d.world) :
    (∃ gathered d', host.gatherFrom listing limit cursor s d = (.ok gathered, d') ∧ P d'.world) ∨
      (host.gatherFrom listing limit cursor s d).1 = .error (.fault .endlessListing) := by
  induction limit generalizing cursor d with
  | zero => exact .inr rfl
  | succ limit ih =>
    obtain ⟨answer, d₁, hanswer, hd₁⟩ := (hpage listing cursor).attempt s d hd
    rw [gatherFrom, bind_of_ok _ hanswer]
    rcases answer with e | ⟨items, _ | next⟩
    · exact .inl ⟨_, _, rfl, hd₁⟩
    · exact .inl ⟨_, _, rfl, hd₁⟩
    · rcases ih (some next) d₁ hd₁ with ⟨rest, d₂, hrest, hd₂⟩ | hendless
      · exact .inl ⟨_, _, bind_of_ok _ hrest, hd₂⟩
      · right
        dsimp only
        rw [bind_of_error _ (Prod.ext hendless rfl)]

variable {settings : GovernanceSettings} (h : host.Responds settings P)
include h

theorem Responds.gather (listing : Listing) : Ends P (host.gather listing) fun _ => P := by
  intro s d hd
  rcases gatherFrom_cases h.page listing host.pageLimit none s d hd with hend | hendless
  · exact hend
  · exact absurd hendless (h.finite listing s d hd)

theorem Responds.collect (listing : Listing) : Ends P (attempt (host.collect listing)) fun _ => P := by
  rw [attempt_collect]
  exact Ends.bind (h.gather listing) fun _ => ends_pure fun _ hw => hw

end Host

namespace Governor

variable {g : Governor σ} {P : σ → Prop} (h : g.host.Responds g.settings P)
include h

theorem request_answers (kind : ActionKind) (r : WorkflowRun) : Answers P (g.request kind r) fun _ => P := by
  cases kind with
  | cancel => exact h.cancelRun r
  | remove => exact h.removeRun r

theorem orders_end (os : List Order) (l : Ledger) : Ends P (g.obeyAll l os) fun _ => P :=
  obeyAll_ends (fun o _ => request_answers h o.kind o.run) l

theorem listRuns_ends (filter : RunFilter) : Ends P (g.listRuns filter) fun _ => P := by
  refine Ends.bind (h.collect (.runs filter)) fun answer => ?_
  cases answer with
  | error e => exact Ends.bind (ends_record _ _ _) fun _ => ends_pure fun _ hw => hw
  | ok runs => exact ends_pure fun _ hw => hw

theorem openPullRequests_ends : Ends P g.openPullRequests fun _ => P := by
  refine Ends.bind (h.collect .pullRequests) fun answer => ?_
  cases answer with
  | error e => exact Ends.bind (ends_record _ _ _) fun _ => ends_pure fun _ hw => hw
  | ok pulls => exact Ends.bind (ends_record _ _ _) fun _ => ends_pure fun _ hw => hw

/-! ### Queued duplicates -/

theorem cancelEach_ends (runs : List WorkflowRun) (l : Ledger) :
    Ends P (g.cancelEach l runs) fun p w => p.2 = .ok () ∧ P w := by
  induction runs generalizing l with
  | nil => exact ends_pure fun _ hw => ⟨rfl, hw⟩
  | cons r runs ih =>
    have hobey := obey_ends (o := ⟨.duplicateQueued, .cancel, .superseded, r⟩) (request_answers h .cancel r) l
    exact Ends.outcome_bind hobey fun l₁ => ih l₁

theorem cancelDuplicates_ends (filter : RunFilter) (l : Ledger) :
    Ends P (g.cancelDuplicates filter l) fun p w => p.2.isOk = true ∧ P w := by
  refine Ends.outcome_bind (listRuns_ends h filter) fun found => ?_
  cases found with
  | none => exact ends_pure fun _ hw => ⟨rfl, hw⟩
  | some runs =>
    refine Ends.bind (ends_record _ _ _) fun _ => ?_
    refine Ends.bind (cancelEach_ends h (duplicateRuns runs) l) fun p => ?_
    refine ends_pure ?_
    rintro w ⟨hended, hw⟩
    exact ⟨by rw [hended]; rfl, hw⟩

theorem cancelInBranches_ends (branches : List Branch) (l : Ledger) :
    Ends P (g.cancelInBranches l branches) fun p w => p.2 = .ok () ∧ P w := by
  induction branches generalizing l with
  | nil => exact ends_pure fun _ hw => ⟨rfl, hw⟩
  | cons b branches ih =>
    refine Ends.bind ((cancelDuplicates_ends h (.queuedOn b) l).within (Scope.worker 0)) ?_
    rintro ⟨l₁, f | runs⟩ s d ⟨hended, hd⟩
    · cases hended
    · obtain ⟨⟨l₂, later⟩, d₁, hrest, hlater, hd₁⟩ := ih l₁ s d hd
      exact ⟨_, _, bind_of_ok _ hrest, hlater, hd₁⟩

theorem cancelQueuedDuplicates_ends (branches : List Branch) (l : Ledger) :
    Ends P (g.cancelQueuedDuplicates branches l) fun _ => P := by
  refine Ends.bind (cancelInBranches_ends h branches l) ?_
  rintro ⟨l₁, _⟩ s d ⟨rfl, hd⟩
  -- no worker has failed, so the runs of pull requests are listed
  refine Ends.bind (cancelDuplicates_ends h .queuedOfPulls l₁) ?_ s d hd
  rintro ⟨l₂, f | runs⟩ s d ⟨hended, hd⟩
  · cases hended
  · exact ⟨_, _, rfl, hd⟩

/-! ### The other policies -/

theorem purge_ends (hclock : Ends P g.clock fun _ => P) (l : Ledger) : Ends P (g.purge l) fun _ => P := by
  refine Ends.bind hclock fun now => ?_
  refine purgeDown_ends (P := fun _ => P) (fun page => ?_) now _ l
  refine (h.runsPage (page + 1) (by omega)).mono (fun _ hw => hw) fun answer w hw => ?_
  exact ⟨hw.1, fun r hr => ⟨hw.2 r hr, fun kind => request_answers h kind r⟩⟩

theorem sweepCancelled_ends (l : Ledger) : Ends P (g.sweepCancelled l) fun _ => P := by
  refine Ends.bind (listRuns_ends h _) fun found => ?_
  cases found with
  | none => exact ends_pure fun _ hw => hw
  | some runs =>
    refine Ends.bind (ends_record _ _ _) fun _ => ?_
    rw [sweep_eq]
    exact orders_end h _ l

theorem prune_ends (pulls : List PullRequest) (l : Ledger) : Ends P (g.prune pulls l) fun _ => P := by
  refine Ends.bind (listRuns_ends h _) fun found => ?_
  cases found with
  | none => exact ends_pure fun _ hw => hw
  | some runs =>
    refine Ends.bind (ends_record _ _ _) fun _ => ?_
    rw [pruneAll_eq]
    exact orders_end h _ l

theorem runPolicies_ends (hclock : Ends P g.clock fun _ => P) (branches : List Branch) :
    Ends P (g.runPolicies branches) fun _ => P := by
  refine Ends.bind (cancelQueuedDuplicates_ends h branches {}) fun ⟨l, queued⟩ => ?_
  refine Ends.bind (openPullRequests_ends h) fun pulls => ?_
  cases pulls with
  | none =>
    refine Ends.bind (Q := fun _ => P) (ends_pure fun _ hw => hw) fun l => ?_
    refine Ends.bind (purge_ends h hclock l) fun l => ?_
    exact Ends.bind (sweepCancelled_ends h l) fun l => ends_pure fun _ hw => hw
  | some pulls =>
    have hcleared : Ends P (g.clearOrphans queued pulls l) fun _ => P := by
      rw [clearOrphans_eq]
      exact orders_end h _ l
    refine Ends.bind hcleared fun l => ?_
    refine Ends.bind (purge_ends h hclock l) fun l => ?_
    exact Ends.bind (sweepCancelled_ends h l) fun l => prune_ends h pulls l

/-- **A pass on a host that responds comes to its end.** -/
theorem runPass_ends (hclock : Ends P g.clock fun _ => P) (branches : List Branch) :
    Ends P (g.runPass branches) fun _ => P := by
  refine Ends.bind (ends_record _ _ _) fun _ => ?_
  refine Ends.bind (runPolicies_ends h hclock branches) fun l => ?_
  exact Ends.bind (ends_record _ _ _) fun _ => ends_pure fun _ hw => hw

end Governor

end RunSteward
