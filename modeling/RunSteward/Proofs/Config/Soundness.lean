import RunSteward.Proofs.Config.Reading
import RunSteward.Proofs.Text.Blank

/-!
# Settings that were read

Settings that were read keep within their bounds, and nothing in them is blank (`AppConfig.Sound`). Written back as a
document they are read again as they are, whatever the order of the trusted committers, provided that the home
directory has no tilde of its own (`read_sound`).
-/

namespace RunSteward

open Document (Members find?)
open Config

variable {homes : Homes} {data : Members} {key : String} {texts : List String}

/-! ## Sound settings -/

/-- Texts without repetitions, none of them blank or with blanks around it. -/
structure Clean (texts : List String) : Prop where
  nodup : texts.Nodup
  trimmed : ∀ s ∈ texts, Text.Trimmed s.toList

/-- The program waits between passes and can do something in each. -/
structure RuntimeSettings.Sound (r : RuntimeSettings) : Prop where
  pollIntervalSeconds : 30 ≤ r.pollIntervalSeconds
  workerCount : 1 ≤ r.workerCount
  ghTimeoutSeconds : 1 ≤ r.ghTimeoutSeconds
  ghMaxAttempts : 1 ≤ r.ghMaxAttempts

/-- The repository has a name, and its lists are clean. -/
structure RepoSettings.Sound (r : RepoSettings) : Prop where
  owner : r.owner ≠ ""
  name : r.name ≠ ""
  mainlineBranch : r.mainlineBranch ≠ ""
  pagesBranches : Clean r.pagesBranches
  deploymentPrefixes : Clean r.deploymentPrefixes
  versionFile : r.versionFile ≠ ""

/-- Somebody is trusted, and nothing is kept for less than a day. -/
structure GovernanceSettings.Sound (g : GovernanceSettings) : Prop where
  trusted_ne_nil : g.trustedCommitters ≠ []
  trustedCommitters : Clean g.trustedCommitters
  staleRunRetentionDays : 1 ≤ g.staleRunRetentionDays
  successRetentionDays : 1 ≤ g.successRetentionDays
  failureRetentionDays : 1 ≤ g.failureRetentionDays
  retentionPageCount : 1 ≤ g.retentionPageCount
  ciLabel : g.ciLabel ≠ ""
  resumeTriggerPhrase : Text.Trimmed g.resumeTriggerPhrase.toList

/-- All settings are sound. -/
structure AppConfig.Sound (config : AppConfig) : Prop where
  runtime : config.runtime.Sound
  repo : config.repo.Sound
  governance : config.governance.Sound

theorem Config.SaysTexts.clean (h : SaysTexts data key texts) : Clean texts := by
  obtain ⟨written, -, hfilled, hfirst⟩ := h
  refine ⟨hfirst.nodup, fun s hs => ?_⟩
  obtain ⟨w, hw, rfl⟩ := List.mem_map.mp ((hfirst.mem s).mp hs)
  exact Text.trimmed_trim (hfilled w hw)

theorem clean_singleton {s : String} (hne : s ≠ "") (h : Text.Unbroken s.toList) : Clean [s] where
  nodup := List.nodup_singleton s
  trimmed t ht := by
    obtain rfl := List.mem_singleton.mp ht
    exact h.trimmed (by simpa using hne)

theorem RuntimeSettings.SaidBy.sound {r : RuntimeSettings} (h : r.SaidBy homes data) : r.Sound :=
  ⟨h.pollIntervalSeconds.2, h.workerCount.2, h.ghTimeoutSeconds.2, h.ghMaxAttempts.2⟩

theorem RepoSettings.SaidBy.sound {r : RepoSettings} (h : r.SaidBy data) : r.Sound where
  owner := h.owner.2
  name := h.name.2
  mainlineBranch := h.mainlineBranch.2
  pagesBranches := by
    rcases h.pagesBranches with htexts | ⟨-, hdefault⟩
    · exact htexts.clean
    · exact hdefault ▸ clean_singleton (by decide) (by decide)
  deploymentPrefixes := by
    rcases h.deploymentPrefixes with htexts | ⟨-, hdefault⟩
    · exact htexts.clean
    · exact hdefault ▸ clean_singleton (by decide) (by decide)
  versionFile := h.versionFile.2

theorem GovernanceSettings.SaidBy.sound {g : GovernanceSettings} (h : g.SaidBy data) : g.Sound where
  trusted_ne_nil := h.trustedCommitters.2
  trustedCommitters := h.trustedCommitters.1.clean
  staleRunRetentionDays := h.staleRunRetentionDays.2
  successRetentionDays := h.successRetentionDays.2
  failureRetentionDays := h.failureRetentionDays.2
  retentionPageCount := h.retentionPageCount.2
  ciLabel := h.ciLabel.2
  resumeTriggerPhrase := by
    obtain ⟨written, -, hphrase, hfilled⟩ := h.resumeTriggerPhrase
    exact hphrase ▸ Text.trimmed_trim (hphrase ▸ hfilled)

theorem AppConfig.SaidBy.sound {config : AppConfig} (h : config.SaidBy homes data) : config.Sound := by
  obtain ⟨runtime, repo, governance, -, hruntime, hrepo, hgovernance⟩ := h
  exact ⟨hruntime.sound, hrepo.sound, hgovernance.sound⟩

/-! ## Flags are no numbers -/

/-- The keys of the whole numbers, each with its table. -/
def Config.wholeKeys : List (String × String) :=
  [("runtime", "poll_interval_seconds"), ("runtime", "worker_count"), ("runtime", "gh_timeout_seconds"),
    ("runtime", "gh_max_attempts"), ("governance", "stale_run_retention_days"),
    ("governance", "success_retention_days"), ("governance", "failure_retention_days"),
    ("governance", "retention_page_count")]

/-- A document has a flag for a key of one of its tables. -/
def Config.HasFlag (data : Members) (table key : String) : Prop :=
  ∃ members b, find? data table = some (.table members) ∧ find? members key = some (.flag b)

theorem Config.SaysWhole.not_flag {fallback least n : Int} (h : SaysWhole data key fallback least n) (b : Bool) :
    find? data key ≠ some (.flag b) := by
  intro hflag
  have hwhole := h.1
  rw [hflag] at hwhole
  cases hwhole

theorem AppConfig.SaidBy.no_flag {config : AppConfig} (h : config.SaidBy homes data) :
    ∀ place ∈ wholeKeys, ¬HasFlag data place.1 place.2 := by
  obtain ⟨runtime, repo, governance, htables, hruntime, -, hgovernance⟩ := h
  have hinRuntime {members : Members} (hfound : find? data "runtime" = some (.table members)) : members = runtime := by
    rcases htables.runtime with htable | ⟨hunset | hunset, -⟩
    · simpa using hfound.symm.trans htable
    · simp [hfound] at hunset
    · simp [hfound] at hunset
  have hinGovernance {members : Members} (hfound : find? data "governance" = some (.table members)) :
      members = governance := by
    simpa using hfound.symm.trans htables.governance
  rintro place hplace ⟨members, b, hmembers, hflag⟩
  simp only [wholeKeys, List.mem_cons, List.not_mem_nil, or_false] at hplace
  rcases hplace with rfl | rfl | rfl | rfl | rfl | rfl | rfl | rfl
  · exact hruntime.pollIntervalSeconds.not_flag b (hinRuntime hmembers ▸ hflag)
  · exact hruntime.workerCount.not_flag b (hinRuntime hmembers ▸ hflag)
  · exact hruntime.ghTimeoutSeconds.not_flag b (hinRuntime hmembers ▸ hflag)
  · exact hruntime.ghMaxAttempts.not_flag b (hinRuntime hmembers ▸ hflag)
  · exact hgovernance.staleRunRetentionDays.not_flag b (hinGovernance hmembers ▸ hflag)
  · exact hgovernance.successRetentionDays.not_flag b (hinGovernance hmembers ▸ hflag)
  · exact hgovernance.failureRetentionDays.not_flag b (hinGovernance hmembers ▸ hflag)
  · exact hgovernance.retentionPageCount.not_flag b (hinGovernance hmembers ▸ hflag)

/-! ## Settings written back -/

/-- The table of how the program runs. -/
def RuntimeSettings.members (r : RuntimeSettings) : Members :=
  [("base_dir", .text r.baseDir.text), ("poll_interval_seconds", .whole r.pollIntervalSeconds),
    ("worker_count", .whole r.workerCount), ("gh_timeout_seconds", .whole r.ghTimeoutSeconds),
    ("gh_max_attempts", .whole r.ghMaxAttempts)]

/-- The table of the repository. An empty address is left out. -/
def RepoSettings.members (r : RepoSettings) : Members :=
  [("owner", .text r.owner), ("name", .text r.name), ("mainline_branch", .text r.mainlineBranch),
    ("pages_branches", .list (r.pagesBranches.map .text)),
    ("deployment_prefixes", .list (r.deploymentPrefixes.map .text)), ("version_file", .text r.versionFile)] ++
  if r.statusTargetUrl = "" then [] else [("status_target_url", .text r.statusTargetUrl)]

/-- The table of how runs are governed. -/
def GovernanceSettings.members (g : GovernanceSettings) : Members :=
  [("trusted_committers", .list (g.trustedCommitters.map .text)),
    ("stale_run_retention_days", .whole g.staleRunRetentionDays),
    ("success_retention_days", .whole g.successRetentionDays),
    ("failure_retention_days", .whole g.failureRetentionDays),
    ("retention_page_count", .whole g.retentionPageCount), ("ci_label", .text g.ciLabel),
    ("resume_trigger_phrase", .text g.resumeTriggerPhrase)]

/-- The document that holds settings. -/
def AppConfig.document (config : AppConfig) : Members :=
  [("runtime", .table config.runtime.members), ("repo", .table config.repo.members),
    ("governance", .table config.governance.members)]

/-- The settings with another list of trusted committers. -/
def AppConfig.trusting (config : AppConfig) (logins : List String) : AppConfig :=
  { config with governance := { config.governance with trustedCommitters := logins } }

theorem Clean.saysTexts (h : Clean texts) (hfound : find? data key = some (.list (texts.map .text))) :
    SaysTexts data key texts := by
  have htrim : texts.map Text.trim = texts := by
    rw [List.map_congr_left fun s hs => (h.trimmed s hs).trim_eq, List.map_id']
  refine ⟨texts, hfound, fun s hs => ?_, htrim.symm ▸ .of_nodup h.nodup⟩
  rw [(h.trimmed s hs).trim_eq]
  exact fun hempty => (h.trimmed s hs).ne_nil (by simp [hempty])

theorem Clean.perm {texts' : List String} (h : Clean texts) (hperm : texts'.Perm texts) : Clean texts' where
  nodup := hperm.nodup_iff.mpr h.nodup
  trimmed s hs := h.trimmed s (hperm.mem_iff.mp hs)

theorem RuntimeSettings.Sound.saidBy_members {r : RuntimeSettings} (h : r.Sound) (hproper : r.baseDir.Proper)
    (hsettled : r.baseDir.expandHome homes = .ok r.baseDir) : r.SaidBy homes r.members where
  baseDir := ⟨r.baseDir.text, ⟨rfl, hproper.text_ne_empty⟩, by rw [DirPath.read_text hproper, hsettled]⟩
  pollIntervalSeconds := ⟨rfl, h.pollIntervalSeconds⟩
  workerCount := ⟨rfl, h.workerCount⟩
  ghTimeoutSeconds := ⟨rfl, h.ghTimeoutSeconds⟩
  ghMaxAttempts := ⟨rfl, h.ghMaxAttempts⟩

theorem RepoSettings.Sound.saidBy_members {r : RepoSettings} (h : r.Sound) : r.SaidBy r.members where
  owner := ⟨rfl, h.owner⟩
  name := ⟨rfl, h.name⟩
  mainlineBranch := ⟨rfl, h.mainlineBranch⟩
  pagesBranches := .inl (h.pagesBranches.saysTexts rfl)
  deploymentPrefixes := .inl (h.deploymentPrefixes.saysTexts rfl)
  versionFile := ⟨rfl, h.versionFile⟩
  statusTargetUrl := by
    by_cases hurl : r.statusTargetUrl = ""
    · exact .inr ⟨.inl (by simp [RepoSettings.members, hurl, find?]), hurl⟩
    · exact .inl ⟨by simp [RepoSettings.members, hurl, find?], hurl⟩

theorem GovernanceSettings.Sound.saidBy_members {g : GovernanceSettings} (h : g.Sound) : g.SaidBy g.members where
  trustedCommitters := ⟨h.trustedCommitters.saysTexts rfl, h.trusted_ne_nil⟩
  staleRunRetentionDays := ⟨rfl, h.staleRunRetentionDays⟩
  successRetentionDays := ⟨rfl, h.successRetentionDays⟩
  failureRetentionDays := ⟨rfl, h.failureRetentionDays⟩
  retentionPageCount := ⟨rfl, h.retentionPageCount⟩
  ciLabel := ⟨rfl, h.ciLabel⟩
  resumeTriggerPhrase := by
    have hfilled : g.resumeTriggerPhrase ≠ "" := fun hempty => h.resumeTriggerPhrase.ne_nil (by simp [hempty])
    exact ⟨_, ⟨rfl, hfilled⟩, h.resumeTriggerPhrase.trim_eq.symm, hfilled⟩

/-- Sound settings are what their own document says, once the home directory in their path is found. -/
theorem AppConfig.Sound.saidBy_document {config : AppConfig} (h : config.Sound)
    (hproper : config.runtime.baseDir.Proper)
    (hsettled : config.runtime.baseDir.expandHome homes = .ok config.runtime.baseDir) :
    config.SaidBy homes config.document :=
  ⟨_, _, _, ⟨.inl rfl, rfl, rfl⟩, h.runtime.saidBy_members hproper hsettled, h.repo.saidBy_members,
    h.governance.saidBy_members⟩

theorem AppConfig.Sound.trusting {config : AppConfig} (h : config.Sound) {logins : List String}
    (hperm : logins.Perm config.governance.trustedCommitters) : (config.trusting logins).Sound where
  runtime := h.runtime
  repo := h.repo
  governance :=
    { h.governance with
      trusted_ne_nil := fun hnil => h.governance.trusted_ne_nil (List.nil_perm.mp (hnil ▸ hperm))
      trustedCommitters := h.governance.trustedCommitters.perm hperm }

/-- **Reading is sound and stable.** Settings that are read off a document are those that it says, and they are sound;
no flag passes for a number in it. Written back as a document, the trusted committers in any order, they are read as
they are, unless a home directory begins with a tilde. -/
theorem Config.read_sound {config : AppConfig} (h : read homes data = .ok config) :
    config.SaidBy homes data ∧ config.Sound ∧ (∀ place ∈ wholeKeys, ¬HasFlag data place.1 place.2) ∧
      (DirPath.AnchoredHomes homes → ∀ logins, logins.Perm config.governance.trustedCommitters →
        read homes (config.trusting logins).document = .ok (config.trusting logins)) := by
  have hsaid := read_eq_ok.mp h
  have hsound := hsaid.sound
  refine ⟨hsaid, hsound, hsaid.no_flag, fun hhomes logins hperm => ?_⟩
  obtain ⟨-, -, -, -, ⟨⟨written, -, hdir⟩, -⟩, -⟩ := hsaid
  have hproper := DirPath.expandHome_proper (DirPath.read_proper written) hdir
  have hsettled := DirPath.expandHome_settled hhomes hdir
  exact read_eq_ok.mpr ((hsound.trusting hperm).saidBy_document hproper hsettled)

/-- A computer with two users, one of whom runs the program. -/
def townsfolk : Homes
  | none => some "/home/ann"
  | some user => if user = "bob" then some "/srv/bob/" else none

theorem anchored_townsfolk : DirPath.AnchoredHomes townsfolk := by
  have hplaces : ∀ home ∈ ["/home/ann", "/srv/bob/"], (DirPath.ofHome home).root = "/" := by decide
  rintro (_ | user) home hhome hroot
  · obtain rfl := Option.some.inj hhome
    exact absurd hroot (by rw [hplaces] <;> simp)
  · obtain ⟨-, rfl⟩ : user = "bob" ∧ "/srv/bob/" = home := by simpa [townsfolk] using hhome
    exact absurd hroot (by rw [hplaces] <;> simp)

/-- A document with blanks and repetitions, which reading drops. -/
def roughDocument : Members :=
  [("runtime", .table [("base_dir", .text "~bob/runs/./log"), ("worker_count", .whole 2)]),
    ("repo", .table [("owner", .text "ann"), ("name", .text "tool"),
      ("pages_branches", .list [.text " pages", .text "docs", .text "pages "])]),
    ("governance", .table [("trusted_committers", .list [.text "ann ", .text "bob", .text " ann"]),
      ("resume_trigger_phrase", .text " go on ")])]

/-- What it says. -/
def roughSettings : AppConfig where
  runtime := { baseDir := ⟨"/", ["srv", "bob", "runs", "log"]⟩, workerCount := 2 }
  repo := { owner := "ann", name := "tool", pagesBranches := ["pages", "docs"] }
  governance := { trustedCommitters := ["ann", "bob"], resumeTriggerPhrase := "go on" }

theorem read_rough :
    DirPath.AnchoredHomes townsfolk ∧ Config.read townsfolk roughDocument = .ok roughSettings ∧
      roughSettings.Sound ∧ roughSettings.SaidBy townsfolk roughDocument ∧
        Config.read townsfolk (roughSettings.trusting ["bob", "ann"]).document =
          .ok (roughSettings.trusting ["bob", "ann"]) := by
  have hread : Config.read townsfolk roughDocument = .ok roughSettings := rfl
  obtain ⟨hsaid, hsound, -, hback⟩ := Config.read_sound hread
  exact ⟨anchored_townsfolk, hread, hsound, hsaid, hback anchored_townsfolk ["bob", "ann"] (by decide)⟩

end RunSteward
