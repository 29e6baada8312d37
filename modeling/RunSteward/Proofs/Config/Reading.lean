import Mathlib.Data.List.Induction
import Mathlib.Data.List.Nodup
import RunSteward.Config.Reader
import RunSteward.Proofs.Config.Path

/-!
# What documents say

What a document says about a setting is told key by key: a text that is not empty, a whole number that is not too small,
or a list of texts without repetitions, with a default where the key is missing. Reading gives the settings that the
document says in all of its keys (`AppConfig.SaidBy`), and it gives them exactly then (`read_eq_ok`).
-/

namespace RunSteward

open Document (Members find?)

namespace Except

variable {ε α β : Type}

theorem bind_eq_ok {x : Except ε α} {f : α → Except ε β} {b : β} :
    x >>= f = .ok b ↔ ∃ a, x = .ok a ∧ f a = .ok b := by
  cases x with
  | error e => exact ⟨fun h => (nomatch h), fun ⟨_, h, _⟩ => (nomatch h)⟩
  | ok a => exact ⟨fun h => ⟨a, rfl, h⟩, fun ⟨_, ha, h⟩ => Except.ok.inj ha ▸ h⟩

theorem bind_eq_error {x : Except ε α} {f : α → Except ε β} {e : ε} :
    x >>= f = .error e ↔ x = .error e ∨ ∃ a, x = .ok a ∧ f a = .error e := by
  cases x with
  | error e' => exact ⟨fun h => .inl (Except.error.inj h ▸ rfl), fun h => h.elim (fun h => Except.error.inj h ▸ rfl)
      fun ⟨_, h, _⟩ => nomatch h⟩
  | ok a => exact ⟨fun h => .inr ⟨a, rfl, h⟩, fun h => h.elim nofun fun ⟨_, ha, h⟩ => Except.ok.inj ha ▸ h⟩

theorem pure_eq_ok {a b : α} : (pure a : Except ε α) = .ok b ↔ a = b :=
  ⟨Except.ok.inj, congrArg _⟩

end Except

/-! ## Lists without repetitions -/

/-- The members of a list without repetitions, in the order in which they first come. -/
structure FirstComers (all kept : List String) : Prop where
  nodup : kept.Nodup
  mem : ∀ a, a ∈ kept ↔ a ∈ all
  order : kept.Pairwise fun a b => all.idxOf a < all.idxOf b

namespace FirstComers

variable {all kept kept' : List String}

theorem eq (h : FirstComers all kept) (h' : FirstComers all kept') : kept = kept' := by
  have hperm : kept.Perm kept' := (List.perm_ext_iff_of_nodup h.nodup h'.nodup).mpr fun a => by rw [h.mem, h'.mem]
  exact hperm.eq_of_pairwise (fun a b _ _ hab hba => absurd hab (Nat.lt_asymm hba)) h.order h'.order

theorem of_nodup (h : all.Nodup) : FirstComers all all where
  nodup := h
  mem _ := Iff.rfl
  order := by
    rw [List.pairwise_iff_getElem]
    intro i j hi hj hij
    rwa [h.idxOf_getElem, h.idxOf_getElem]

end FirstComers

namespace Config

variable {homes : Homes} {data ms : Members} {key s fallback : String} {n least : Int}
variable {all texts defaults : List String}

/-! ## Repetitions are dropped -/

theorem distinct_concat (all : List String) (a : String) :
    distinct (all ++ [a]) = if a ∈ distinct all then distinct all else distinct all ++ [a] := by
  simp [distinct]

/-- By induction from the last member, which is kept unless it came before. -/
theorem firstComers_distinct (all : List String) : FirstComers all (distinct all) := by
  induction all using List.reverseRecOn with
  | nil => exact .of_nodup List.nodup_nil
  | append_singleton all a ih =>
    have horder : (distinct all).Pairwise fun b c => (all ++ [a]).idxOf b < (all ++ [a]).idxOf c := by
      refine ih.order.imp_of_mem fun {b c} hb hc hlt => ?_
      rwa [List.idxOf_append_of_mem ((ih.mem b).mp hb), List.idxOf_append_of_mem ((ih.mem c).mp hc)]
    rw [distinct_concat]
    by_cases ha : a ∈ distinct all
    · rw [if_pos ha]
      refine ⟨ih.nodup, fun b => ?_, horder⟩
      rw [ih.mem, List.mem_append, List.mem_singleton, iff_self_or]
      rintro rfl
      exact (ih.mem b).mp ha
    · rw [if_neg ha]
      have hnew : a ∉ all := mt (ih.mem a).mpr ha
      refine ⟨List.nodup_append.mpr ⟨ih.nodup, List.nodup_singleton a, ?_⟩, fun b => ?_,
        List.pairwise_append.mpr ⟨horder, List.pairwise_singleton _ _, ?_⟩⟩
      · rintro b hb c hc rfl
        exact ha (List.mem_singleton.mp hc ▸ hb)
      · simp [ih.mem]
      · intro b hb c hc
        obtain rfl := List.mem_singleton.mp hc
        have hold := (ih.mem b).mp hb
        rw [List.idxOf_append_of_mem hold, List.idxOf_append_of_notMem hnew]
        exact Nat.lt_of_lt_of_le (List.idxOf_lt_length_of_mem hold) (Nat.le_add_right _ _)

theorem eq_distinct_iff : texts = distinct all ↔ FirstComers all texts :=
  ⟨fun h => h ▸ firstComers_distinct all, fun h => h.eq (firstComers_distinct all)⟩

/-! ## What a table says -/

/-- A key that a table does not have, or has without a value. -/
def Unset (data : Members) (key : String) : Prop :=
  find? data key = none ∨ find? data key = some .absent

/-- A table says a text for a key; where the key is missing, the default, if there is one. -/
def SaysText (data : Members) (key : String) (fallback : Option String) (s : String) : Prop :=
  (find? data key).or (fallback.map .text) = some (.text s) ∧ s ≠ ""

/-- A table says a whole number for a key, which is not too small; where the key is missing, the default. -/
def SaysWhole (data : Members) (key : String) (fallback least n : Int) : Prop :=
  (find? data key).getD (.whole fallback) = .whole n ∧ least ≤ n

/-- A table says a list of texts for a key. Blanks around them and repetitions do not count, and no text is blank. -/
def SaysTexts (data : Members) (key : String) (texts : List String) : Prop :=
  ∃ written : List String, find? data key = some (.list (written.map .text)) ∧
    (∀ s ∈ written, Text.trim s ≠ "") ∧ FirstComers (written.map Text.trim) texts

@[simp] theorem wrong_ne_ok {α : Type} (e : ConfigError) (a : α) : wrong e ≠ .ok a :=
  nofun

theorem requiredTable_eq_ok : requiredTable data key = .ok ms ↔ find? data key = some (.table ms) := by
  rcases hfound : find? data key with _ | v
  · simp [requiredTable, hfound]
  · cases v <;> simp [requiredTable, hfound]

theorem optionalTable_eq_ok :
    optionalTable data key = .ok ms ↔ find? data key = some (.table ms) ∨ (Unset data key ∧ ms = []) := by
  rcases hfound : find? data key with _ | v
  · simp [optionalTable, Unset, hfound, eq_comm (a := [])]
  · cases v <;> simp [optionalTable, Unset, hfound, eq_comm (a := [])]

theorem filled_eq_ok {t : String} {e : ConfigError} :
    (if t = "" then wrong e else .ok t) = (.ok s : Reading String) ↔ t = s ∧ s ≠ "" := by
  by_cases ht : t = ""
  · rw [if_pos ht]
    exact iff_of_false (wrong_ne_ok e s) fun ⟨hs, hne⟩ => hne (hs.symm.trans ht)
  · rw [if_neg ht, Except.ok.injEq]
    exact ⟨fun hs => ⟨hs, hs ▸ ht⟩, And.left⟩

theorem requiredText_eq_ok : requiredText data key = .ok s ↔ SaysText data key none s := by
  rcases hfound : find? data key with _ | v
  · simp [requiredText, SaysText, hfound]
  · cases v <;> simp [requiredText, SaysText, hfound, filled_eq_ok]

theorem optionalText_eq_ok :
    optionalText data key = .ok s ↔ SaysText data key none s ∨ (Unset data key ∧ s = "") := by
  rcases hfound : find? data key with _ | v
  · simp [optionalText, SaysText, Unset, hfound, eq_comm (a := "")]
  · cases v <;> simp [optionalText, SaysText, Unset, hfound, filled_eq_ok, eq_comm (a := "")]

theorem textOr_eq_ok : textOr data key fallback = .ok s ↔ SaysText data key (some fallback) s := by
  rcases hfound : find? data key with _ | v
  · simp [textOr, SaysText, hfound, filled_eq_ok]
  · cases v <;> simp [textOr, SaysText, hfound, filled_eq_ok]

theorem integerOr_eq_ok {n default : Int} :
    integerOr data key default = .ok n ↔ (find? data key).getD (.whole default) = .whole n := by
  unfold integerOr
  cases (find? data key).getD (.whole default) <;> simp

theorem positiveOr_eq_ok {n default : Int} : positiveOr data key default = .ok n ↔ SaysWhole data key default 1 n := by
  simp only [positiveOr, Except.bind_eq_ok, integerOr_eq_ok, SaysWhole]
  constructor
  · rintro ⟨m, hm, hresult⟩
    split at hresult
    · cases hresult
    · obtain rfl := Except.ok.inj hresult
      exact ⟨hm, by omega⟩
  · rintro ⟨hn, hpositive⟩
    exact ⟨n, hn, if_neg (by omega)⟩

theorem atLeast_eq_ok {minimum : Nat} {n : Int} {u : Unit} : atLeast minimum key n = .ok u ↔ minimum ≤ n := by
  unfold atLeast
  by_cases hn : n < minimum
  · simp [hn]
  · simp [hn, Int.not_lt.mp hn]

/-! ## Lists of texts -/

/-- An item of a list as a trimmed text, if it is a text that is not blank. -/
def trimmedText? : Document → Option String
  | .text s => if (Text.trim s).isEmpty then none else some (Text.trim s)
  | _ => none

theorem trimmedText?_eq_some {v : Document} :
    trimmedText? v = some s ↔ ∃ w, v = .text w ∧ Text.trim w ≠ "" ∧ s = Text.trim w := by
  cases v <;> simp [trimmedText?, eq_comm (a := s)]

theorem trimmedTexts?_cons (v : Document) (vs : List Document) :
    trimmedTexts? (v :: vs) = (trimmedText? v).bind fun s => (trimmedTexts? vs).map fun rest => s :: rest := by
  have heach : ∀ items, trimmedTexts? items = items.mapM trimmedText? := fun _ => rfl
  rw [heach, heach, List.mapM_cons]
  cases trimmedText? v with
  | none => rfl
  | some s => cases vs.mapM trimmedText? <;> rfl

theorem trimmedTexts?_eq_some {items : List Document} : trimmedTexts? items = some texts ↔
    ∃ written : List String, items = written.map .text ∧ (∀ s ∈ written, Text.trim s ≠ "") ∧
      texts = written.map Text.trim := by
  induction items generalizing texts with
  | nil => simp [trimmedTexts?, eq_comm (a := [])]
  | cons v vs ih =>
    rw [trimmedTexts?_cons]
    constructor
    · intro h
      obtain ⟨s, hs, h⟩ := Option.bind_eq_some_iff.mp h
      obtain ⟨rest, hrest, rfl⟩ := Option.map_eq_some_iff.mp h
      obtain ⟨w, rfl, hfilled, rfl⟩ := trimmedText?_eq_some.mp hs
      obtain ⟨written, rfl, hall, rfl⟩ := ih.mp hrest
      exact ⟨w :: written, rfl, List.forall_mem_cons.mpr ⟨hfilled, hall⟩, rfl⟩
    · rintro ⟨written, hitems, hall, rfl⟩
      cases written with
      | nil => cases hitems
      | cons w written =>
        obtain ⟨rfl, rfl⟩ := List.cons.inj hitems
        obtain ⟨hfilled, hall⟩ := List.forall_mem_cons.mp hall
        rw [trimmedText?_eq_some.mpr ⟨w, rfl, hfilled, rfl⟩, Option.bind_some, ih.mpr ⟨written, rfl, hall, rfl⟩]
        rfl

theorem saysTexts_iff : SaysTexts data key texts ↔
    ∃ items all, find? data key = some (.list items) ∧ trimmedTexts? items = some all ∧ texts = distinct all := by
  constructor
  · rintro ⟨written, hfound, hfilled, hfirst⟩
    exact ⟨_, _, hfound, trimmedTexts?_eq_some.mpr ⟨written, rfl, hfilled, rfl⟩, eq_distinct_iff.mpr hfirst⟩
  · rintro ⟨items, all, hfound, htrimmed, htexts⟩
    obtain ⟨written, rfl, hfilled, rfl⟩ := trimmedTexts?_eq_some.mp htrimmed
    exact ⟨written, hfound, hfilled, eq_distinct_iff.mp htexts⟩

theorem textsOr_eq_ok : textsOr data key defaults = .ok texts ↔
    SaysTexts data key texts ∨ (find? data key = none ∧ texts = defaults) := by
  rw [saysTexts_iff]
  rcases hfound : find? data key with _ | v
  · simp [textsOr, hfound, eq_comm (a := defaults)]
  · cases v with
    | list items => cases htrimmed : trimmedTexts? items <;> simp [textsOr, hfound, htrimmed, eq_comm (a := texts)]
    | _ => simp [textsOr, hfound]

theorem distinct_eq_nil {all : List String} : distinct all = [] ↔ all = [] := by
  simp only [List.eq_nil_iff_forall_not_mem, (firstComers_distinct all).mem]

theorem requiredLogins_eq_ok : requiredLogins data key = .ok texts ↔ SaysTexts data key texts ∧ texts ≠ [] := by
  rw [saysTexts_iff]
  rcases hfound : find? data key with _ | v
  · simp [requiredLogins, hfound]
  · cases v with
    | list items =>
      cases items with
      | nil => simp +contextual [requiredLogins, hfound, trimmedTexts?, distinct]
      | cons v vs =>
        cases htrimmed : trimmedTexts? (v :: vs) with
        | none => simp [requiredLogins, hfound, htrimmed]
        | some all =>
          have hne : distinct all ≠ [] := by
            rw [Ne, distinct_eq_nil]
            rintro rfl
            obtain ⟨written, hitems, -, hall⟩ := trimmedTexts?_eq_some.mp htrimmed
            obtain rfl := List.map_eq_nil_iff.mp hall.symm
            cases hitems
          simp only [requiredLogins, hfound, htrimmed, Except.ok.injEq, Option.some.injEq, Document.list.injEq]
          constructor
          · rintro rfl
            exact ⟨⟨_, _, rfl, htrimmed, rfl⟩, hne⟩
          · rintro ⟨⟨_, all', rfl, hall, rfl⟩, -⟩
            rw [Option.some.inj (htrimmed.symm.trans hall)]
    | _ => simp [requiredLogins, hfound]

theorem directory_eq_ok {text : String} {dir : DirPath} :
    directory homes text = .ok dir ↔ (DirPath.read text).expandHome homes = .ok dir := by
  unfold directory
  cases (DirPath.read text).expandHome homes <;> simp

end Config

/-! ## Whole settings -/

open Config

/-- A table says how the program runs. -/
structure RuntimeSettings.SaidBy (homes : Homes) (data : Members) (r : RuntimeSettings) : Prop where
  baseDir : ∃ written, SaysText data "base_dir" (some "~/.local/share/repowarden") written ∧
    (DirPath.read written).expandHome homes = .ok r.baseDir
  pollIntervalSeconds : SaysWhole data "poll_interval_seconds" 300 30 r.pollIntervalSeconds
  workerCount : SaysWhole data "worker_count" 4 1 r.workerCount
  ghTimeoutSeconds : SaysWhole data "gh_timeout_seconds" 60 1 r.ghTimeoutSeconds
  ghMaxAttempts : SaysWhole data "gh_max_attempts" 3 1 r.ghMaxAttempts

/-- A table says which repository the program looks after. -/
structure RepoSettings.SaidBy (data : Members) (r : RepoSettings) : Prop where
  owner : SaysText data "owner" none r.owner
  name : SaysText data "name" none r.name
  mainlineBranch : SaysText data "mainline_branch" (some "master") r.mainlineBranch
  pagesBranches : SaysTexts data "pages_branches" r.pagesBranches ∨
    (find? data "pages_branches" = none ∧ r.pagesBranches = ["gh-pages"])
  deploymentPrefixes : SaysTexts data "deployment_prefixes" r.deploymentPrefixes ∨
    (find? data "deployment_prefixes" = none ∧ r.deploymentPrefixes = ["heroku"])
  versionFile : SaysText data "version_file" (some "gradle.properties") r.versionFile
  statusTargetUrl : SaysText data "status_target_url" none r.statusTargetUrl ∨
    (Unset data "status_target_url" ∧ r.statusTargetUrl = "")

/-- A table says how runs are governed. -/
structure GovernanceSettings.SaidBy (data : Members) (g : GovernanceSettings) : Prop where
  trustedCommitters : SaysTexts data "trusted_committers" g.trustedCommitters ∧ g.trustedCommitters ≠ []
  staleRunRetentionDays : SaysWhole data "stale_run_retention_days" 30 1 g.staleRunRetentionDays
  successRetentionDays : SaysWhole data "success_retention_days" 2 1 g.successRetentionDays
  failureRetentionDays : SaysWhole data "failure_retention_days" 7 1 g.failureRetentionDays
  retentionPageCount : SaysWhole data "retention_page_count" 20 1 g.retentionPageCount
  ciLabel : SaysText data "ci_label" (some "CI") g.ciLabel
  resumeTriggerPhrase : ∃ written, SaysText data "resume_trigger_phrase" (some "@apereocas-bot runci") written ∧
    g.resumeTriggerPhrase = Text.trim written ∧ g.resumeTriggerPhrase ≠ ""

/-- A document has the three tables of the settings; that of the runtime may be left out. -/
structure Config.Tables (data runtime repo governance : Members) : Prop where
  runtime : find? data "runtime" = some (.table runtime) ∨ (Unset data "runtime" ∧ runtime = [])
  repo : find? data "repo" = some (.table repo)
  governance : find? data "governance" = some (.table governance)

/-- A document says the settings, table by table. -/
def AppConfig.SaidBy (homes : Homes) (data : Members) (config : AppConfig) : Prop :=
  ∃ runtime repo governance, Tables data runtime repo governance ∧
    config.runtime.SaidBy homes runtime ∧ config.repo.SaidBy repo ∧ config.governance.SaidBy governance

namespace Config

variable {homes : Homes} {data : Members}

theorem readRuntime_eq_ok {r : RuntimeSettings} : readRuntime homes data = .ok r ↔ r.SaidBy homes data := by
  simp only [readRuntime, Except.bind_eq_ok, Except.pure_eq_ok, textOr_eq_ok, directory_eq_ok, integerOr_eq_ok,
    atLeast_eq_ok]
  constructor
  · rintro ⟨written, hwritten, dir, hdir, poll, hpoll, workers, hworkers, timeout, htimeout, attempts, hattempts,
      _, hpoll', _, hworkers', _, htimeout', _, hattempts', rfl⟩
    exact ⟨⟨written, hwritten, hdir⟩, ⟨hpoll, hpoll'⟩, ⟨hworkers, hworkers'⟩, ⟨htimeout, htimeout'⟩,
      ⟨hattempts, hattempts'⟩⟩
  · rintro ⟨⟨written, hwritten, hdir⟩, ⟨hpoll, hpoll'⟩, ⟨hworkers, hworkers'⟩, ⟨htimeout, htimeout'⟩,
      ⟨hattempts, hattempts'⟩⟩
    exact ⟨written, hwritten, _, hdir, _, hpoll, _, hworkers, _, htimeout, _, hattempts,
      (), hpoll', (), hworkers', (), htimeout', (), hattempts', rfl⟩

theorem readRepo_eq_ok {r : RepoSettings} : readRepo data = .ok r ↔ r.SaidBy data := by
  simp only [readRepo, Except.bind_eq_ok, Except.pure_eq_ok, requiredText_eq_ok, textOr_eq_ok, textsOr_eq_ok,
    optionalText_eq_ok]
  constructor
  · rintro ⟨owner, howner, name, hname, mainline, hmainline, pages, hpages, deployments, hdeployments,
      file, hfile, target, htarget, rfl⟩
    exact ⟨howner, hname, hmainline, hpages, hdeployments, hfile, htarget⟩
  · rintro ⟨howner, hname, hmainline, hpages, hdeployments, hfile, htarget⟩
    exact ⟨_, howner, _, hname, _, hmainline, _, hpages, _, hdeployments, _, hfile, _, htarget, rfl⟩

theorem unlessBlank_eq_ok {α : Type} {t : String} {e : ConfigError} {a b : α} :
    (if t.isEmpty then (do wrong e; pure a) else pure a) = (.ok b : Reading α) ↔ t ≠ "" ∧ a = b := by
  by_cases ht : t = ""
  · subst ht
    exact iff_of_false nofun fun h => h.1 rfl
  · simp [ht, Except.pure_eq_ok]

theorem readGovernance_eq_ok {g : GovernanceSettings} : readGovernance data = .ok g ↔ g.SaidBy data := by
  simp only [readGovernance, Except.bind_eq_ok, requiredLogins_eq_ok, positiveOr_eq_ok, textOr_eq_ok]
  constructor
  · rintro ⟨trusted, htrusted, stale, hstale, success, hsuccess, failure, hfailure, pages, hpages,
      label, hlabel, written, hwritten, hresult⟩
    rw [unlessBlank_eq_ok] at hresult
    obtain ⟨hfilled, rfl⟩ := hresult
    exact ⟨htrusted, hstale, hsuccess, hfailure, hpages, hlabel, written, hwritten, rfl, hfilled⟩
  · rintro ⟨htrusted, hstale, hsuccess, hfailure, hpages, hlabel, written, hwritten, hphrase, hfilled⟩
    refine ⟨_, htrusted, _, hstale, _, hsuccess, _, hfailure, _, hpages, _, hlabel, written, hwritten, ?_⟩
    rw [unlessBlank_eq_ok, ← hphrase]
    exact ⟨hfilled, rfl⟩

/-- **Reading is exact**: settings are read off a document if and only if the document says them. -/
theorem read_eq_ok {config : AppConfig} : read homes data = .ok config ↔ config.SaidBy homes data := by
  simp only [read, Except.bind_eq_ok, Except.pure_eq_ok, optionalTable_eq_ok, requiredTable_eq_ok, readRuntime_eq_ok,
    readRepo_eq_ok, readGovernance_eq_ok]
  constructor
  · rintro ⟨_, hruntimeData, _, hrepoData, _, hgovernanceData, _, hruntime, _, hrepo, _, hgovernance, rfl⟩
    exact ⟨_, _, _, ⟨hruntimeData, hrepoData, hgovernanceData⟩, hruntime, hrepo, hgovernance⟩
  · rintro ⟨_, _, _, ⟨hruntimeData, hrepoData, hgovernanceData⟩, hruntime, hrepo, hgovernance⟩
    exact ⟨_, hruntimeData, _, hrepoData, _, hgovernanceData, _, hruntime, _, hrepo, _, hgovernance, rfl⟩

end Config

end RunSteward
