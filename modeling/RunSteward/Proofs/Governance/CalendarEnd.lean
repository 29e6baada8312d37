import RunSteward.Config.Reader
import RunSteward.Gateway.Payload
import RunSteward.Proofs.Governance.RetentionScan
import RunSteward.Proofs.Time.DayNumber

/-!
# The end of the calendar

A retention period ends some days after a date, and the calendar need not reach so far: dates near its end come from
outside, and the settings bound the days of a period only from below. What the retention rules make of a run is known
exactly if the calendar reaches to the end of each period that they ask for (`WorkflowRun.Dated`). With an answering
host, a retention scan goes through all its pages exactly if that is so for every run on them, and breaks off over the
first other run (`retention_dated`).
-/

namespace RunSteward

variable {σ : Type}

/-! ## Periods -/

/-- Tells whether the calendar holds the date that lies so many days after another one. -/
def Date.Reaches (d : Date) (days : Int) : Prop :=
  ∃ e : Date, (e.number : Int) = d.number + days

theorem Date.reaches_iff {d : Date} {days : Int} :
    d.Reaches days ↔ 1 ≤ (d.number : Int) + days ∧ (d.number : Int) + days ≤ lastDayNumber := by
  constructor
  · rintro ⟨e, he⟩
    have hmem := e.number_mem
    omega
  · rintro ⟨hfirst, hlast⟩
    obtain ⟨day, hday⟩ := Int.eq_ofNat_of_zero_le (show 0 ≤ (d.number : Int) + days by omega)
    obtain ⟨e, he⟩ := Date.exists_number_iff.mpr (show 1 ≤ day ∧ day ≤ lastDayNumber by omega)
    exact ⟨e, by omega⟩

/-- A period is as long as the calendar reaches: the bound on the number of its days never comes first. -/
theorem Stamp.afterDays?_cases (t : Stamp) (days : Int) :
    (t.date.Reaches days ∧ t.afterDays? days = some (t.instant + days * microsPerDay)) ∨
      (¬t.date.Reaches days ∧ t.afterDays? days = none) := by
  have hmem := t.date.number_mem
  simp only [afterDays?, Date.reaches_iff]
  by_cases hreach : 1 ≤ (t.date.number : Int) + days ∧ (t.date.number : Int) + days ≤ lastDayNumber
  · refine .inl ⟨hreach, if_pos ⟨?_, hreach⟩⟩
    have hmost : lastDayNumber ≤ maxDays := by decide
    omega
  · exact .inr ⟨hreach, if_neg fun h => hreach h.2⟩

namespace WorkflowRun

/-- Tells whether so many days have gone by since the last update. -/
def Outlived (r : WorkflowRun) (days : Int) (now : Stamp) : Prop :=
  r.updatedAt.instant + days * microsPerDay < now.instant

instance (r : WorkflowRun) (days : Int) (now : Stamp) : Decidable (r.Outlived days now) :=
  inferInstanceAs (Decidable (_ < _))

/-- How many days a push run is kept. -/
def pushDays (r : WorkflowRun) (settings : GovernanceSettings) : Int :=
  if r.concludedSuccessfully then settings.successRetentionDays else settings.failureRetentionDays

/-- Tells whether the calendar reaches to the end of each period that the retention rules ask for: the first one for
every run, and another one for a push run that is not stale. -/
def Dated (settings : GovernanceSettings) (now : Stamp) (r : WorkflowRun) : Prop :=
  r.updatedAt.date.Reaches settings.staleRunRetentionDays ∧
    (¬r.Outlived settings.staleRunRetentionDays now → r.event = pushEvent →
      r.updatedAt.date.Reaches (r.pushDays settings))

variable {r : WorkflowRun} {days : Int}

theorem isOlderThan_of_reaches (h : r.updatedAt.date.Reaches days) (now : Stamp) :
    r.isOlderThan days now = .ok (decide (r.Outlived days now)) := by
  obtain ⟨-, hafter⟩ | ⟨hnot, -⟩ := r.updatedAt.afterDays?_cases days
  · rw [isOlderThan, hafter]
    rfl
  · exact absurd h hnot

theorem isOlderThan_of_not_reaches (h : ¬r.updatedAt.date.Reaches days) (now : Stamp) :
    r.isOlderThan days now = .error .dateOutOfRange := by
  obtain ⟨hreach, -⟩ | ⟨-, hafter⟩ := r.updatedAt.afterDays?_cases days
  · exact absurd hreach h
  · rw [isOlderThan, hafter]

theorem expiry_of_push {settings : GovernanceSettings} {now : Stamp}
    (hstale : r.isOlderThan settings.staleRunRetentionDays now = .ok false) (hpush : r.event = pushEvent) :
    r.expiry settings now = (r.isOlderThan (r.pushDays settings) now).map fun old =>
      if old then some (if r.concludedSuccessfully then .expiredSuccess else .expiredFailure) else none := by
  unfold expiry pushDays
  rw [hstale]
  cases r.concludedSuccessfully with
  | true =>
    simp only [hpush, bind, Except.bind, ne_eq, not_true_eq_false, if_true, if_false, Bool.false_eq_true]
    rcases r.isOlderThan settings.successRetentionDays now with f | _ | _ <;> rfl
  | false =>
    simp only [hpush, bind, Except.bind, ne_eq, not_true_eq_false, if_false, Bool.false_eq_true]
    rcases r.isOlderThan settings.failureRetentionDays now with f | _ | _ <;> rfl

/-- Either the calendar reaches far enough and the retention rules give an answer, or they break off. -/
theorem expiry_cases (r : WorkflowRun) (settings : GovernanceSettings) (now : Stamp) :
    (r.Dated settings now ∧ ∃ reason, r.expiry settings now = .ok reason) ∨
      (¬r.Dated settings now ∧ r.expiry settings now = .error .dateOutOfRange) := by
  by_cases hstale : r.updatedAt.date.Reaches settings.staleRunRetentionDays
  · have hage := isOlderThan_of_reaches hstale now
    by_cases hold : r.Outlived settings.staleRunRetentionDays now
    · rw [decide_eq_true hold] at hage
      exact .inl ⟨⟨hstale, fun h => absurd hold h⟩, some .stale, by rw [expiry, hage]; rfl⟩
    rw [decide_eq_false hold] at hage
    by_cases hpush : r.event = pushEvent
    · rw [expiry_of_push hage hpush]
      by_cases hreach : r.updatedAt.date.Reaches (r.pushDays settings)
      · rw [isOlderThan_of_reaches hreach]
        exact .inl ⟨⟨hstale, fun _ _ => hreach⟩, _, rfl⟩
      · rw [isOlderThan_of_not_reaches hreach]
        exact .inr ⟨fun hdated => hreach (hdated.2 hold hpush), rfl⟩
    · refine .inl ⟨⟨hstale, fun _ h => absurd h hpush⟩, none, ?_⟩
      rw [expiry, hage]
      simp [hpush, bind, Except.bind, pure, Except.pure]
  · refine .inr ⟨fun hdated => hstale hdated.1, ?_⟩
    rw [expiry, isOlderThan_of_not_reaches hstale]
    rfl

end WorkflowRun

/-! ## Scans -/

/-- How an examination of runs ends: with a result if the calendar reaches far enough for all of them, and otherwise
over one for which it does not. -/
inductive Examined {α : Type} (settings : GovernanceSettings) (now : Stamp) (runs : List WorkflowRun) :
    Except Failure α → Prop where
  | done (a : α) (hruns : ∀ r ∈ runs, r.Dated settings now) : Examined settings now runs (.ok a)
  | broken {r : WorkflowRun} (hr : r ∈ runs) (hundated : ¬r.Dated settings now) :
      Examined settings now runs (.error (.fault .dateOutOfRange))

theorem Examined.append {α : Type} {settings : GovernanceSettings} {now : Stamp} {before runs : List WorkflowRun}
    {result : Except Failure α} (h : Examined settings now runs result) (hbefore : ∀ r ∈ before, r.Dated settings now) :
    Examined settings now (before ++ runs) result := by
  cases h with
  | done a hruns =>
    refine .done a fun r hr => ?_
    rcases List.mem_append.mp hr with hr | hr
    · exact hbefore r hr
    · exact hruns r hr
  | broken hr hundated => exact .broken (List.mem_append_right _ hr) hundated

namespace Governor

open Act

/-- A governor whose clock can be read, and whose host answers what a scan asks for with a result or a host error. -/
structure Attended (g : Governor σ) (P : σ → Prop) : Prop where
  clock : Ends P g.clock fun _ => P
  runsPage : ∀ number, 1 ≤ number → Answers P (g.host.runsPage number 100) fun _ => P
  request : ∀ kind r, Answers P (g.request kind r) fun _ => P

variable {g : Governor σ} {P : σ → Prop} (h : g.Attended P)
include h

theorem purgeRun_attended {now : Stamp} {r : WorkflowRun} {x : Option Reason} (hx : r.expiry g.settings now = .ok x)
    (l : Ledger) (seen : List Lookup) :
    Ends (fun w => P w.world ∧ w.lookups = seen) (g.watched.purgeRun now l r) fun _ w =>
      P w.world ∧ w.lookups = seen := by
  rw [purgeRun_eq (g := g.watched) hx]
  refine obeyAll_ends (fun o _ => ?_) l
  rw [request_watched]
  have hanswers := watched_answers (h.request o.kind o.run) (fun answer w => w.called ⟨o.kind, o.run, answer⟩)
    (fun _ => []) (fun _ _ => ⟨rfl, (List.append_nil _).symm⟩) seen
  simpa using hanswers

/-- By induction on the runs: each one is purged, or breaks the examination off. -/
theorem purgeAll_examined (now : Stamp) (runs : List WorkflowRun) (l : Ledger) (s : Scope) (d : Desk (Watched σ))
    (hd : P d.world.world) :
    ∃ result d', runs.foldlM (g.watched.purgeRun now) l s d = (result, d') ∧ P d'.world.world ∧
      d'.world.lookups = d.world.lookups ∧ Examined g.settings now runs result := by
  induction runs generalizing l d with
  | nil => exact ⟨_, d, rfl, hd, rfl, .done l (by simp)⟩
  | cons r runs ih =>
    rw [List.foldlM_cons]
    obtain ⟨hdated, x, hx⟩ | ⟨hundated, hx⟩ := r.expiry_cases g.settings now
    · obtain ⟨l₁, d₁, hfirst, hd₁, hseen⟩ := purgeRun_attended h hx l d.world.lookups s d ⟨hd, rfl⟩
      obtain ⟨result, d', hrest, hd', hlookups, hexamined⟩ := ih l₁ d₁ hd₁
      refine ⟨result, d', (bind_of_ok _ hfirst).trans hrest, hd', hlookups.trans hseen, ?_⟩
      exact hexamined.append (show ∀ q ∈ [r], q.Dated g.settings now by simpa using hdated)
    · have hbroken : g.watched.purgeRun now l r s d = (.error (.fault .dateOutOfRange), d) := by
        have hx' : r.expiry g.watched.settings now = .error .dateOutOfRange := hx
        rw [purgeRun, hx']
        rfl
      exact ⟨_, d, bind_of_error _ hbroken, hd, rfl, .broken List.mem_cons_self hundated⟩

theorem purgePage_examined (now : Stamp) (page : Int) (hpage : 1 ≤ page) (l : Ledger) (s : Scope)
    (d : Desk (Watched σ)) (hd : P d.world.world) :
    ∃ (p : Scan) (result : Except Failure Ledger) (d' : Desk (Watched σ)),
      g.watched.purgePage now l page s d = (result, d') ∧ p.number = page ∧ P d'.world.world ∧
      d'.world.lookups = d.world.lookups ++ [p.lookup] ∧ Examined g.settings now p.work result := by
  obtain ⟨answer, d₁, hanswer, hd₁, hlookups⟩ :=
    (watched_answers (h.runsPage page hpage) (fun answer w => w.lookedUp (.runsPage page 100 answer))
      (fun answer => [.runsPage page 100 answer]) (fun _ _ => ⟨rfl, rfl⟩) d.world.lookups).attempt s d ⟨hd, rfl⟩
  have hattempt : Act.attempt (g.watched.host.runsPage page 100) s d = (.ok answer, d₁) := hanswer
  rw [purgePage, bind_of_ok _ hattempt]
  rcases answer with e | runs
  · exact ⟨⟨page, .error e⟩, _, _, rfl, rfl, hd₁, hlookups, .done l (by simp [Scan.work, Except.toOption])⟩
  · obtain ⟨result, d', hend, hd', hsame, hexamined⟩ := purgeAll_examined h now runs l s
      ⟨d₁.world, d₁.log.push ⟨.info, logger, s, LogEvent.message "retention_page_scanned"
        [("page", .int page), ("run_count", .int runs.length)]⟩⟩ hd₁
    exact ⟨⟨page, .ok runs⟩, result, d', hend, rfl, hd', hsame.trans hlookups, hexamined⟩

/-- By induction on the pages: a scan goes on to the next page unless a run on this one breaks it off. -/
theorem purgeDown_examined (now : Stamp) (count : Nat) (l : Ledger) (s : Scope) (d : Desk (Watched σ))
    (hd : P d.world.world) :
    ∃ (pages : List Scan) (rest : List Int) (result : Except Failure Ledger) (d' : Desk (Watched σ)),
      g.watched.purgeDown now count l s d = (result, d') ∧ pages.map Scan.number ++ rest = pagesDown count ∧
      d'.world.lookups = d.world.lookups ++ pages.map Scan.lookup ∧
      Examined g.settings now (pages.flatMap Scan.work) result ∧ (result.isOk = true → rest = []) := by
  induction count generalizing l d with
  | zero => exact ⟨[], [], _, d, rfl, rfl, (List.append_nil _).symm, .done l (by simp), fun _ => rfl⟩
  | succ page ih =>
    obtain ⟨p, result, d₁, hpage, hnumber, hd₁, hlookups, hexamined⟩ :=
      purgePage_examined h now (page + 1) (by omega) l s d hd
    rw [purgeDown]
    cases hexamined with
    | broken hr hundated =>
      refine ⟨[p], pagesDown page, _, d₁, bind_of_error _ hpage, by simp [hnumber, pagesDown], by simpa using hlookups,
        .broken (by simpa using hr) hundated, fun hok => by cases hok⟩
    | done l₁ hruns =>
      obtain ⟨pages, rest, result, d', hend, hnumbers, hlookups', hexamined', hrest⟩ := ih l₁ d₁ hd₁
      refine ⟨p :: pages, rest, result, d', (bind_of_ok _ hpage).trans hend, ?_, ?_, ?_, hrest⟩
      · rw [List.map_cons, List.cons_append, hnumbers, hnumber, pagesDown]
      · rw [hlookups', hlookups]
        simp
      · rw [List.flatMap_cons]
        exact hexamined'.append hruns

/-- **Retention goes as far as the calendar.** The retention rules give an answer for a run exactly if the calendar
reaches to the end of each period that they ask for. A scan on an answering host goes through all its pages exactly if
that is so for every run that it reads, and otherwise breaks off. -/
theorem retention_dated (s : Scope) (d : Desk σ) (hd : P d.world) :
    (∀ (r : WorkflowRun) (now : Stamp), (r.Dated g.settings now ∧ ∃ reason, r.expiry g.settings now = .ok reason) ∨
      (¬r.Dated g.settings now ∧ r.expiry g.settings now = .error .dateOutOfRange)) ∧
    ∃ (now : Stamp) (pages : List Scan), g.scanned s d = .clock (.ok now) :: pages.map Scan.lookup ∧
      (((∀ r ∈ pages.flatMap Scan.work, r.Dated g.settings now) ∧
          pages.map Scan.number = pagesDown g.settings.retentionPageCount.toNat ∧ ∃ l, (g.purge {} s d).1 = .ok l) ∨
        ((∃ r ∈ pages.flatMap Scan.work, ¬r.Dated g.settings now) ∧
          (g.purge {} s d).1 = .error (.fault .dateOutOfRange))) := by
  refine ⟨fun r now => r.expiry_cases g.settings now, ?_⟩
  obtain ⟨now, d₁, hnow, hd₁⟩ := h.clock s d hd
  obtain ⟨d₂, hclock, hd₂, hread⟩ : ∃ d₂, g.watched.clock s d.watched = (.ok now, d₂) ∧ P d₂.world.world ∧
      d₂.world.lookups = [.clock (.ok now)] :=
    ⟨_, watched_of (d := d.watched) (fun answer w => w.lookedUp (.clock answer)) hnow, hd₁, rfl⟩
  obtain ⟨pages, rest, result, d', hend, hnumbers, hlookups, hexamined, hrest⟩ :=
    purgeDown_examined h now g.settings.retentionPageCount.toNat {} s d₂ hd₂
  have hpurge : g.watched.purge {} s d.watched = (result, d') := (bind_of_ok _ hclock).trans hend
  refine ⟨now, pages, ?_, ?_⟩
  · rw [scanned, hpurge, hlookups, hread]
    rfl
  · rw [← purge_watched, hpurge]
    cases hexamined with
    | done l hruns =>
      obtain rfl := hrest rfl
      exact .inl ⟨hruns, by simpa using hnumbers, l, rfl⟩
    | broken hr hundated => exact .inr ⟨⟨_, hr, hundated⟩, rfl⟩

end Governor

/-! ### A run at the end of the calendar -/

namespace RunStore

/-- The start of the last day of the calendar. -/
def lastMidnight : Stamp :=
  { (default : Stamp) with date := ⟨9999, 12, 31, by decide, by decide, by decide⟩ }

/-- A push run that was last updated on the last day. -/
def lastDayRun : WorkflowRun :=
  { queuedRun 2 "main" "push" with updatedAt := lastMidnight }

/-- A store of that run and of one that expired long ago. -/
def lastDayDesk : Desk RunStore :=
  ⟨⟨[lastDayRun, queuedRun 1 "main" "push"], [], by decide⟩, #[]⟩

theorem governor_attended (respond : ActionKind → Int → RunStore → Except HostError Unit × RunStore) (now : Stamp) :
    (governor respond now).Attended fun _ => True where
  clock := Act.ends_pure fun _ hw => hw
  runsPage number _ _ d _ := ⟨.ok (d.world.block number), d, rfl, trivial⟩
  request kind r s d _ := by
    rw [governor_request, request_apply]
    exact ⟨_, _, rfl, trivial⟩

end RunStore

open RunStore

/-- The scan of this store meets a run for which the calendar does not reach far enough. -/
theorem Governor.retention_dated_lastDay :
    ∃ (now : Stamp) (pages : List Scan),
      (governor answer march).scanned {} lastDayDesk = .clock (.ok now) :: pages.map Scan.lookup ∧
      (∃ r ∈ pages.flatMap Scan.work, ¬r.Dated (governor answer march).settings now) ∧
      ((governor answer march).purge {} {} lastDayDesk).1 = .error (.fault .dateOutOfRange) := by
  have hbroken : ((governor answer march).purge {} {} lastDayDesk).1 = .error (.fault .dateOutOfRange) := by
    decide +kernel
  obtain ⟨-, now, pages, hscanned, ⟨-, -, l, hend⟩ | ⟨hundated, hend⟩⟩ :=
    retention_dated (governor_attended answer march) {} lastDayDesk trivial
  · rw [hbroken] at hend
    cases hend
  · exact ⟨now, pages, hscanned, hundated, hend⟩

def lastDayDocument : Document.Members := [
  ("runtime", .table [("base_dir", .text "/srv")]),
  ("repo", .table [("owner", .text "o"), ("name", .text "r")]),
  ("governance", .table [("trusted_committers", .list [.text "alice"]), ("retention_page_count", .whole 1)])]

/-- **A timestamp can break a scan off**: with settings that are accepted, and a time that can be read, the retention
rules have no answer for the run, and the scan does not come to the run that expired long ago. -/
theorem Governor.purge_broken_off :
    (∃ config, Config.read (fun _ => some "/root") lastDayDocument = .ok config ∧
      config.governance = (governor answer march).settings) ∧
    Payload.time "updated_at" (.string "9999-12-31T00:00:00Z") = .ok lastDayRun.updatedAt ∧
    lastDayRun.expiry (governor answer march).settings march = .error .dateOutOfRange ∧
    ((governor answer march).purge {} {} lastDayDesk).1 = .error (.fault .dateOutOfRange) := by
  refine ⟨⟨⟨{ baseDir := DirPath.read "/srv" }, { owner := "o", name := "r" }, _⟩, rfl, rfl⟩, rfl, ?_, ?_⟩
  · decide +kernel
  · decide +kernel

end RunSteward
