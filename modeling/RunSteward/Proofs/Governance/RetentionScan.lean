import RunSteward.Proofs.Governance.Completion
import RunSteward.Proofs.Governance.Deeds

/-!
# The retention scan

The scan reads pages of a list that it is itself shortening. It walks from the last page to the first, and what
it removes stands on the page it has just read or behind it: the front of the list, with all the pages that are
still to come, stays as it was (`front_request`). So the pages that it reads are those of the list in the
beginning (`scan_reads`), every run at the front of the list is examined exactly once, and each one that has
expired is cleared (`purge_covers`).
-/

namespace RunSteward

variable {σ α : Type}

/-! ## Orders that are all carried out -/

/-- What an order permits after it: its run may be named again only to be removed, once it was cancelled. -/
def Order.Permits (o o' : Order) : Prop :=
  o.run.id = o'.run.id → o.kind = .cancel ∧ o'.kind = .remove

theorem Order.permits_clearing (policy : Policy) (reason : Reason) (r : WorkflowRun) :
    (clearing policy reason r).Pairwise Permits := by
  unfold clearing
  split
  · simp [Permits]
  · exact List.pairwise_singleton _ _

theorem Order.permits_ofExpiry (settings : GovernanceSettings) (now : Stamp) (r : WorkflowRun) :
    (ofExpiry settings now r).Pairwise Permits := by
  unfold ofExpiry
  split
  · exact permits_clearing ..
  · exact List.Pairwise.nil

theorem Order.Permits.fresh {o o' : Order} (h : o.Permits o') {l : Ledger}
    (hfresh : l.already o'.kind o'.run.id = false) (x : ActionOutcome) :
    (l.record (o.action x)).already o'.kind o'.run.id = false := by
  obtain ⟨hremoved, hcancelled⟩ := Ledger.already_eq_false.mp hfresh
  refine Ledger.already_eq_false.mpr ⟨fun hmem => ?_, fun hkind hmem => ?_⟩
  · rcases Ledger.mem_removed_record.mp hmem with hmem | ⟨-, hremove, hid⟩
    · exact hremoved hmem
    · obtain ⟨hcancel, -⟩ := h hid
      rw [action_kind, hcancel] at hremove
      cases hremove
  · rcases Ledger.mem_cancelled_record.mp hmem with hmem | ⟨-, -, hid⟩
    · exact hcancelled hkind hmem
    · obtain ⟨-, hremove⟩ := h hid
      rw [hkind] at hremove
      cases hremove

theorem Carried.one_for_one {l l' : Ledger} {os : List Order} {deeds : List Deed} (h : Carried l os deeds l')
    (hpermitted : os.Pairwise Order.Permits) (hfresh : ∀ o ∈ os, l.already o.kind o.run.id = false) :
    List.Forall₂ (fun o x => x.order = o) os deeds := by
  induction h with
  | nil l => exact .nil
  | @skipped l _ o _ _ halready _ _ => simp [hfresh o (by simp)] at halready
  | done _ outcome _ ih =>
    -- what was recorded for one order makes none of the later ones a repetition
    obtain ⟨hhead, htail⟩ := List.pairwise_cons.mp hpermitted
    exact .cons rfl (ih htail fun o' ho' => (hhead o' ho').fresh (hfresh o' (by simp [ho'])) outcome)

theorem Obeyed.carried_out {rehearsal : Bool} {l l' : Ledger} {os : List Order} {calls : List Call}
    (h : Obeyed rehearsal l os l' calls) (hpermitted : os.Pairwise Order.Permits)
    (hfresh : ∀ o ∈ os, l.already o.kind o.run.id = false) :
    ∃ actions, l'.actions = l.actions ++ actions ∧ List.Forall₂ (fun o a => ∃ x, a = Order.action o x) os actions := by
  obtain ⟨deeds, hcarried⟩ := h.carried
  refine ⟨deeds.map Deed.action, hcarried.actions, ?_⟩
  rw [List.forall₂_map_right_iff]
  exact (hcarried.one_for_one hpermitted hfresh).imp fun o x hx => ⟨x.outcome, by rw [← hx]; rfl⟩

theorem exists_of_forall₂ {β : Type} {R : α → β → Prop} {xs : List α} {ys : List β} (h : List.Forall₂ R xs ys)
    {x : α} (hx : x ∈ xs) : ∃ y ∈ ys, R x y := by
  induction h with
  | nil => simp at hx
  | @cons x' y xs ys hhead _ ih =>
    rcases List.mem_cons.mp hx with rfl | hx
    · exact ⟨y, by simp, hhead⟩
    · obtain ⟨y', hy', hR⟩ := ih hx
      exact ⟨y', by simp [hy'], hR⟩

/-! ## The front of a list -/

theorem take_filter_of_forall {p : α → Bool} {place : Nat} {xs : List α} (h : ∀ x ∈ xs.take place, p x = true) :
    (xs.filter p).take place = xs.take place := by
  induction xs generalizing place with
  | nil => simp
  | cons x xs ih =>
    cases place with
    | zero => simp
    | succ place =>
      have hx : p x = true := h x (by simp)
      rw [List.filter_cons_of_pos hx, List.take_succ_cons, List.take_succ_cons]
      rw [ih fun y hy => h y (by simp [hy])]

theorem take_map_of_forall {f : α → α} {place : Nat} {xs : List α} (h : ∀ x ∈ xs.take place, f x = x) :
    (xs.map f).take place = xs.take place := by
  rw [← List.map_take, List.map_congr_left h, List.map_id']

namespace RunStore

/-- The front of a store, up to a place in the list of its runs, is that of another one. -/
def FrontOf (T S : RunStore) (place : Nat) : Prop :=
  T.runs.take place = S.runs.take place

variable {S T : RunStore}

theorem FrontOf.mono {place place' : Nat} (h : T.FrontOf S place) (hle : place' ≤ place) : T.FrontOf S place' := by
  have htake : ∀ U : RunStore, U.runs.take place' = (U.runs.take place).take place' := by
    intro U
    rw [List.take_take, Nat.min_eq_left hle]
  unfold FrontOf at h ⊢
  rw [htake T, h, ← htake S]

theorem FrontOf.block {page : Nat} (h : T.FrontOf S (100 * (page + 1))) :
    T.block (page + 1) = S.block (page + 1) := by
  have hstart : (100 * ((page : Int) + 1 - 1)).toNat = 100 * page := by omega
  have hpage : ∀ U : RunStore, U.block (page + 1) = (U.runs.take (100 * (page + 1))).drop (100 * page) := by
    intro U
    rw [List.drop_take, RunStore.block, hstart]
    congr 1
    omega
  rw [hpage T, hpage S, h]

theorem id_ne_of_mem_block {page : Nat} {r q : WorkflowRun} (hr : r ∈ S.block (page + 1))
    (hq : q ∈ S.runs.take (100 * page)) : q.id ≠ r.id := by
  have hstart : (100 * ((page : Int) + 1 - 1)).toNat = 100 * page := by omega
  have hback : r ∈ S.runs.drop (100 * page) := by
    rw [RunStore.block, hstart] at hr
    exact List.mem_of_mem_take hr
  have hsplit := S.ids_nodup
  rw [← List.take_append_drop (100 * page) S.runs, List.map_append, List.nodup_append] at hsplit
  exact hsplit.2.2 _ (List.mem_map_of_mem hq) _ (List.mem_map_of_mem hback)

/-- The pages up to a number are together the front of the list. -/
theorem blocks_perm (S : RunStore) (count : Nat) :
    ((pagesDown count).flatMap S.block).Perm (S.runs.take (100 * count)) := by
  induction count with
  | zero => simp [pagesDown]
  | succ page ih =>
    have hstart : (100 * ((page : Int) + 1 - 1)).toNat = 100 * page := by omega
    have hfront : S.runs.take (100 * (page + 1)) = S.runs.take (100 * page) ++ S.block (page + 1) := by
      rw [Nat.mul_succ, List.take_add, RunStore.block, hstart]
    rw [pagesDown, List.flatMap_cons, hfront]
    exact List.perm_append_comm.trans (ih.append_right _)

end RunStore

/-! ## Hosts that keep a list of runs -/

/-- A host whose runs stand in a list that nothing but requests changes. Each request may succeed or be refused.
One to cancel a run touches no other run and moves none. A removal that succeeds deletes the run; one that is
refused leaves the list alone, or may have deleted the run all the same. -/
structure Host.KeepsRuns (host : Host σ) (store : σ → RunStore) : Prop where
  block : ∀ number, 1 ≤ number → Act.Sees store (host.runsPage number 100) fun S => S.block number
  cancel : ∀ r s d, ∃ answer d', host.cancelRun r s d = (Except.mapError Failure.host answer, d') ∧
    ∃ f : WorkflowRun → WorkflowRun, (∀ q, q.id ≠ r.id → f q = q) ∧
      (store d'.world).runs = (store d.world).runs.map f
  remove : ∀ r s d, ∃ answer d', host.removeRun r s d = (Except.mapError Failure.host answer, d') ∧
    (store d'.world = (store d.world).remove r.id ∨ answer ≠ .ok () ∧ store d'.world = store d.world)

/-- The runs that a lookup has found on a page of the list of all runs. -/
def Lookup.runs : Lookup → List WorkflowRun
  | .runsPage _ _ (.ok runs) => runs
  | _ => []

def RunStore.lookup (S : RunStore) (number : Int) : Lookup :=
  .runsPage number 100 (.ok (S.block number))

theorem Act.watched_of {x : Act σ α} (note : Except Failure α → Watched σ → Watched σ) {r : Except Failure α}
    {s : Scope} {d : Desk (Watched σ)} {d' : Desk σ} (h : x s d.bare = (r, d')) :
    x.watched note s d = (r, ⟨note r ⟨d'.world, d.world.lookups, d.world.calls⟩, d'.log⟩) := by
  simp [Act.watched, h]

theorem Act.watched_answers {P : σ → Prop} {x : Act σ α} {Q : Except HostError α → σ → Prop}
    (h : Act.Answers P x Q) (note : Except Failure α → Watched σ → Watched σ)
    (lookups : Except Failure α → List Lookup)
    (hnote : ∀ a w, (note a w).world = w.world ∧ (note a w).lookups = w.lookups ++ lookups a)
    (seen : List Lookup) :
    Act.Answers (fun w => P w.world ∧ w.lookups = seen) (x.watched note) fun r w =>
      Q r w.world ∧ w.lookups = seen ++ lookups (r.mapError Failure.host) := by
  rintro s d ⟨hP, hseen⟩
  obtain ⟨r, d', hend, hr⟩ := h s d.bare hP
  obtain ⟨hworld, hlookups⟩ := hnote (r.mapError Failure.host) ⟨d'.world, d.world.lookups, d.world.calls⟩
  refine ⟨r, _, Act.watched_of note hend, ?_, ?_⟩
  · simpa only [hworld] using hr
  · simpa only [hseen] using hlookups

namespace Governor

open Act

variable {g : Governor σ} {store : σ → RunStore} {S : RunStore}

/-- What the retention scan reads, in order. -/
def scanned (g : Governor σ) (s : Scope) (d : Desk σ) : List Lookup :=
  (g.watched.purge {} s d.watched).2.world.lookups

/-- A request for a run that stands behind the front leaves the front as it is. -/
theorem front_request (h : g.host.KeepsRuns store) {place : Nat} {r : WorkflowRun}
    (hr : ∀ q ∈ S.runs.take place, q.id ≠ r.id) (kind : ActionKind) :
    Answers (fun w => (store w).FrontOf S place) (g.request kind r) fun _ w => (store w).FrontOf S place := by
  intro s d hfront
  have hbehind : ∀ q ∈ (store d.world).runs.take place, q.id ≠ r.id := by
    rw [hfront]
    exact hr
  cases kind with
  | cancel =>
    obtain ⟨answer, d', hrequest, f, hothers, hruns⟩ := h.cancel r s d
    have htake : (store d'.world).runs.take place = (store d.world).runs.take place := by
      rw [hruns]
      exact take_map_of_forall fun q hq => hothers q (hbehind q hq)
    exact ⟨answer, d', hrequest, htake.trans hfront⟩
  | remove =>
    obtain ⟨answer, d', hrequest, hstore | ⟨-, hstore⟩⟩ := h.remove r s d
    · have htake : (store d'.world).runs.take place = (store d.world).runs.take place := by
        rw [hstore]
        exact take_filter_of_forall fun q hq => by simpa using hbehind q hq
      exact ⟨answer, d', hrequest, htake.trans hfront⟩
    · refine ⟨answer, d', hrequest, ?_⟩
      simpa only [hstore] using hfront

/-- Before the page of a number the front up to that page is as it was, and the lookups that are left to make
are those of the pages up to it. -/
def Scanning (store : σ → RunStore) (S : RunStore) (all : List Lookup) (page : Nat) (w : Watched σ) : Prop :=
  (store w.world).FrontOf S (100 * page) ∧ w.lookups ++ (pagesDown page).map S.lookup = all

/-- A run on a page can be purged without a change to the pages in front of it. -/
theorem purgeable_of_mem_block (h : g.host.KeepsRuns store) {all : List Lookup} {page : Nat} {r : WorkflowRun}
    (hr : r ∈ S.block (page + 1)) (hdatable : r.Datable g.settings) :
    g.watched.Purgeable (Scanning store S all page) r where
  datable := hdatable
  answers kind := by
    have hfront := front_request h (fun q hq => RunStore.id_ne_of_mem_block hr hq) kind
    rintro s d ⟨hd, hall⟩
    have hwatched := watched_answers hfront (fun answer w => w.called ⟨kind, r, answer⟩) (fun _ => [])
      (fun _ _ => ⟨rfl, (List.append_nil _).symm⟩) d.world.lookups
    rw [request_watched]
    obtain ⟨answer, d', hend, hd', hlookups⟩ := hwatched s d ⟨hd, rfl⟩
    refine ⟨answer, d', hend, hd', ?_⟩
    rw [hlookups, List.append_nil]
    exact hall

theorem page_answers (h : g.host.KeepsRuns store) (hdates : ∀ r ∈ S.runs, r.Datable g.settings)
    (all : List Lookup) (page : Nat) :
    Answers (Scanning store S all (page + 1)) (g.watched.host.runsPage (page + 1) 100) fun answer w =>
      Scanning store S all page w ∧
        ∀ r ∈ answer.toOption.getD [], g.watched.Purgeable (Scanning store S all page) r := by
  rintro s d ⟨hfront, hall⟩
  obtain ⟨d', hpage, hstore⟩ := h.block (page + 1) (by omega) s d.bare
  have hblock : (store d.bare.world).block (page + 1) = S.block (page + 1) := hfront.block
  have hread : g.host.runsPage (page + 1) 100 s d.bare = (.ok (S.block (page + 1)), d') := by
    simpa only [hblock] using hpage
  refine ⟨.ok (S.block (page + 1)), _,
    watched_of (fun answer w => w.lookedUp (.runsPage (page + 1) 100 answer)) hread, ⟨?_, ?_⟩, ?_⟩
  · have hsame : (store d'.world).FrontOf S (100 * (page + 1)) := by
      rw [hstore]
      exact hfront
    exact hsame.mono (by omega)
  · simpa [Watched.lookedUp, pagesDown, RunStore.lookup, Except.mapError] using hall
  · intro r hr
    have hmem : r ∈ S.block (page + 1) := hr
    exact purgeable_of_mem_block h hmem (hdates r (List.mem_of_mem_drop (List.mem_of_mem_take hmem)))

theorem purge_watched (g : Governor σ) (s : Scope) (d : Desk σ) :
    (g.watched.purge {} s d.watched).1 = (g.purge {} s d).1 := by
  have hagree := g.watched_lockstep.workalike.purge {} {} s d.watched d ⟨rfl, rfl⟩
  exact hagree.fst_eq fun _ _ _ _ hres => hres.1

/-- A scan comes to its end, and has read the pages of the list as it was in the beginning. -/
theorem scan_reads (h : g.host.KeepsRuns store)
    (hclock : ∀ s d, ∃ now d', g.clock s d = (.ok now, d') ∧ store d'.world = store d.world) (s : Scope) (d : Desk σ)
    (hdates : ∀ r ∈ (store d.world).runs, r.Datable g.settings) :
    ∃ l d' now, g.purge {} s d = (.ok l, d') ∧ g.scanned s d = .clock (.ok now) ::
      (pagesDown g.settings.retentionPageCount.toNat).map (store d.world).lookup := by
  obtain ⟨now, d₁, hnow, hstore⟩ := hclock s d
  obtain ⟨d₂, hnow', hworld, hlookups⟩ : ∃ d₂, g.watched.clock s d.watched = (.ok now, d₂) ∧
      d₂.world.world = d₁.world ∧ d₂.world.lookups = [.clock (.ok now)] :=
    ⟨_, watched_of (d := d.watched) (fun answer w => w.lookedUp (.clock answer)) hnow, rfl, rfl⟩
  -- at the start all pages are still to come, and only the clock was read
  have hscanning : Scanning store (store d.world)
      (.clock (.ok now) :: (pagesDown g.settings.retentionPageCount.toNat).map (store d.world).lookup)
      g.settings.retentionPageCount.toNat d₂.world := by
    refine ⟨?_, by rw [hlookups]; rfl⟩
    rw [hworld, hstore]
    rfl
  obtain ⟨l, d₃, hend, -, hall⟩ := purgeDown_ends (page_answers h hdates _) now _ {} s d₂ hscanning
  have hwatched : g.watched.purge {} s d.watched = (.ok l, d₃) := (bind_of_ok _ hnow').trans hend
  have hpurge : (g.purge {} s d).1 = .ok l := by rw [← purge_watched, hwatched]
  refine ⟨l, (g.purge {} s d).2, now, Prod.ext hpurge rfl, ?_⟩
  rw [scanned, hwatched]
  simpa [pagesDown] using hall

theorem permits_expiries (settings : GovernanceSettings) (now : Stamp) {runs : List WorkflowRun}
    (hids : (runs.map WorkflowRun.id).Nodup) :
    (runs.flatMap (Order.ofExpiry settings now)).Pairwise Order.Permits := by
  refine List.pairwise_flatMap.mpr ⟨fun r _ => Order.permits_ofExpiry settings now r, ?_⟩
  refine (List.pairwise_map.mp hids).imp fun {r q} hne o ho o' ho' hid => ?_
  rw [(Order.of_mem_ofExpiry ho).2.1, (Order.of_mem_ofExpiry ho').2.1] at hid
  exact absurd hid hne

/-- What a scan has done for the runs that it read: one action for each order, in order. -/
theorem scan_acts {s : Scope} {d d' : Desk σ} {l : Ledger} {now : Stamp} {lookups : List Lookup}
    (hend : g.purge {} s d = (.ok l, d')) (hscanned : g.scanned s d = .clock (.ok now) :: lookups)
    (hids : ((lookups.flatMap Lookup.runs).map WorkflowRun.id).Nodup) :
    List.Forall₂ (fun o a => ∃ x, a = Order.action o x)
      ((lookups.flatMap Lookup.runs).flatMap (Order.ofExpiry g.settings now)) l.actions := by
  obtain ⟨told, calls, ⟨hlookups, -⟩, htold⟩ := g.tells_purge {} s d.watched
  have hend' : (g.watched.purge {} s d.watched).1 = .ok l := by rw [purge_watched, hend]
  obtain ⟨now', pages, -, rfl, hobeyed⟩ := htold l hend'
  have hread : Lookup.clock (.ok now') :: pages.map Scan.lookup = .clock (.ok now) :: lookups :=
    hlookups.symm.trans hscanned
  obtain ⟨⟨⟩, rfl⟩ := List.cons.inj hread
  have hwork : ∀ p : Scan, p.lookup.runs = p.work := by
    rintro ⟨number, _ | runs⟩ <;> rfl
  have hruns : (pages.map Scan.lookup).flatMap Lookup.runs = pages.flatMap Scan.work := by
    rw [List.flatMap_map]
    simp only [hwork]
  rw [← List.flatMap_assoc, ← hruns] at hobeyed
  obtain ⟨actions, hactions, hcarried⟩ :=
    hobeyed.carried_out (permits_expiries g.settings now hids) fun _ _ => by simp [Ledger.already]
  rw [hactions]
  exact hcarried

/-- **The scan covers the front of the list**: whatever becomes of the requests, every run among the first
entries of the list is examined exactly once and no other run is. The expired ones among them get a remove
action, and no other run gets any action. -/
theorem purge_covers (h : g.host.KeepsRuns store)
    (hclock : ∀ s d, ∃ now d', g.clock s d = (.ok now, d') ∧ store d'.world = store d.world) (s : Scope) (d : Desk σ)
    (hdates : ∀ r ∈ (store d.world).runs, r.Datable g.settings) :
    ∃ l d' now, g.purge {} s d = (.ok l, d') ∧
      g.scanned s d = .clock (.ok now) ::
        (pagesDown g.settings.retentionPageCount.toNat).map (store d.world).lookup ∧
      ((g.scanned s d).flatMap Lookup.runs).Perm
        ((store d.world).runs.take (100 * g.settings.retentionPageCount.toNat)) ∧
      List.Forall₂ (fun o a => ∃ x, a = Order.action o x)
        (((g.scanned s d).flatMap Lookup.runs).flatMap (Order.ofExpiry g.settings now)) l.actions ∧
      (∀ r ∈ (store d.world).runs.take (100 * g.settings.retentionPageCount.toNat), ∀ reason,
        r.expiry g.settings now = .ok (some reason) →
          ∃ x, Order.action ⟨.retention, .remove, reason, r⟩ x ∈ l.actions) ∧
      ∀ a ∈ l.actions, ∃ r ∈ (store d.world).runs.take (100 * g.settings.retentionPageCount.toNat),
        a.runId = r.id ∧ ∃ reason, r.expiry g.settings now = .ok (some reason) := by
  obtain ⟨l, d', now, hend, hscanned⟩ := scan_reads h hclock s d hdates
  have hread : (g.scanned s d).flatMap Lookup.runs =
      (pagesDown g.settings.retentionPageCount.toNat).flatMap (store d.world).block := by
    rw [hscanned, List.flatMap_cons, List.flatMap_map]
    rfl
  have hperm := (store d.world).blocks_perm g.settings.retentionPageCount.toNat
  rw [← hread] at hperm
  -- no run stands on two pages, so no order repeats an earlier one
  have hids : (((g.scanned s d).flatMap Lookup.runs).map WorkflowRun.id).Nodup := by
    refine (hperm.map WorkflowRun.id).nodup_iff.mpr ?_
    exact (store d.world).ids_nodup.sublist ((List.take_sublist _ _).map _)
  have hlookups : (g.scanned s d).flatMap Lookup.runs =
      ((pagesDown g.settings.retentionPageCount.toNat).map (store d.world).lookup).flatMap Lookup.runs := by
    rw [hscanned]
    rfl
  have hcarried := scan_acts hend hscanned (by rwa [← hlookups])
  rw [← hlookups] at hcarried
  refine ⟨l, d', now, hend, hscanned, hperm, hcarried, fun r hr reason hexpired => ?_, fun a ha => ?_⟩
  · have horder : (⟨.retention, .remove, reason, r⟩ : Order) ∈
        ((g.scanned s d).flatMap Lookup.runs).flatMap (Order.ofExpiry g.settings now) := by
      refine List.mem_flatMap.mpr ⟨r, hperm.mem_iff.mpr hr, ?_⟩
      simp only [Order.ofExpiry, hexpired]
      exact Order.remove_mem_clearing ..
    obtain ⟨a, ha, x, rfl⟩ := exists_of_forall₂ hcarried horder
    exact ⟨x, ha⟩
  · obtain ⟨o, ho, x, rfl⟩ := exists_of_forall₂ (R := fun a o => ∃ x, a = Order.action o x) hcarried.flip ha
    obtain ⟨r, hr, ho⟩ := List.mem_flatMap.mp ho
    refine ⟨r, hperm.mem_iff.mp hr, by rw [Order.action_runId, (Order.of_mem_ofExpiry ho).2.1], ?_⟩
    unfold Order.ofExpiry at ho
    split at ho
    · exact ⟨_, ‹_›⟩
    · simp at ho

end Governor

namespace RunStore

/-- How a store answers those requests that it does not refuse. -/
def answerUnless (refuses : ActionKind → Int → Bool) (kind : ActionKind) (i : Int) (S : RunStore) :
    Except HostError Unit × RunStore :=
  if refuses kind i then (.error ⟨.transient, "busy"⟩, S) else answer kind i S

theorem host_keepsRuns (refuses : ActionKind → Int → Bool) : (host (answerUnless refuses)).KeepsRuns id where
  block _ _ _ d := ⟨d, rfl, rfl⟩
  cancel r s d := by
    refine ⟨_, _, request_apply (answerUnless refuses .cancel) r s d, ?_⟩
    have hsame : ∃ f : WorkflowRun → WorkflowRun, (∀ q, q.id ≠ r.id → f q = q) ∧
        d.world.runs = d.world.runs.map f := ⟨id, fun _ _ => rfl, by simp⟩
    unfold answerUnless answer
    split
    · exact hsame
    · rcases d.world.run? r.id with _ | x
      · exact hsame
      · by_cases hactive : x.isActive = true
        · refine ⟨fun q => if q.id = r.id then q.asCancelled else q, fun q hq => by simp [hq], ?_⟩
          simp [hactive, RunStore.cancel]
        · simpa [hactive] using hsame
  remove r s d := by
    refine ⟨_, _, request_apply (answerUnless refuses .remove) r s d, ?_⟩
    unfold answerUnless answer
    split
    · exact .inr ⟨by simp, rfl⟩
    · rcases d.world.run? r.id with _ | x
      · exact .inr ⟨by simp, rfl⟩
      · exact .inl rfl

/-- A store of a hundred and three runs, which fill a page and begin another. Every third of them is young. -/
def crowdDesk : Desk RunStore :=
  ⟨{ runs := (List.range 103).map fun i =>
      { queuedRun (103 - i) "main" "push" with updatedAt := if i % 3 = 0 then march else default }
     ids_nodup := by decide +kernel }, #[]⟩

/-- A governor that scans two pages of a store which refuses to remove the runs of even numbers. -/
def crowdGovernor : Governor RunStore :=
  { governor (answerUnless fun kind i => kind == .remove && i % 2 == 0) march with
    settings := { trustedCommitters := ["alice"], retentionPageCount := 2 } }

end RunStore

theorem Governor.purge_covers_crowd :
    ∃ l d', RunStore.crowdGovernor.purge {} {} RunStore.crowdDesk = (.ok l, d') ∧
      ((RunStore.crowdGovernor.scanned {} RunStore.crowdDesk).flatMap Lookup.runs).Perm
        RunStore.crowdDesk.world.runs ∧
      l.actions.length = 136 ∧ (l.actions.countP fun a => a.kind == .remove && a.outcome == .failed) = 34 := by
  have hlength : (RunStore.crowdGovernor.purge {} {} RunStore.crowdDesk).1.toOption.any fun l =>
      l.actions.length == 136 && (l.actions.countP fun a => a.kind == .remove && a.outcome == .failed) == 34 := by
    decide +kernel
  have hkeeps : RunStore.crowdGovernor.host.KeepsRuns id :=
    RunStore.host_keepsRuns fun kind i => kind == .remove && i % 2 == 0
  have hdates : ∀ r ∈ RunStore.crowdDesk.world.runs, r.Datable RunStore.crowdGovernor.settings := by
    decide +kernel
  obtain ⟨l, d', now, hend, -, hperm, -⟩ := purge_covers hkeeps
    (fun _ d => ⟨RunStore.march, d, rfl, rfl⟩) {} RunStore.crowdDesk hdates
  rw [hend] at hlength
  have htake : RunStore.crowdDesk.world.runs.take 200 = RunStore.crowdDesk.world.runs := by
    decide +kernel
  have hactions : l.actions.length = 136 ∧
      (l.actions.countP fun a => a.kind == .remove && a.outcome == .failed) = 34 := by
    simpa [Except.toOption] using hlength
  exact ⟨l, d', hend, hperm.trans (List.Perm.of_eq htake), hactions⟩

end RunSteward
