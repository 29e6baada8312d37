import RunSteward.Proofs.Config.Reading

/-!
# How reading goes wrong

An error of a document names the key that it is about (`ConfigError.key`), and every check blames the keys that it looks
at (`Blames`). One thing can go wrong besides: the home directory in the path of the runtime table is not found. A
reading ends with settings or an error of the document unless that path is a relative one that begins with a tilde and
the name of somebody without a home, and then it ends with the error of that name (`read_outcome`).
-/

namespace RunSteward

open Document (Members find?)

/-- The key that an error is about. -/
def ConfigError.key : ConfigError → String
  | .tableMissing key | .tableExpected key | .textMissing key | .textExpected key | .optionalTextExpected key
  | .integerExpected key | .positiveExpected key | .listExpected key | .listOfTextsExpected key | .loginsExpected key
  | .belowMinimum key _ | .blank key => key

namespace Config

variable {α β : Type} {homes : Homes} {data : Members} {keys : List String} {key : String} {problem : ConfigProblem}

/-! ## Blaming the document -/

/-- A reading that goes wrong only with errors of the document about some keys. -/
def Blames (keys : List String) (r : Reading α) : Prop :=
  ∀ problem, r = .error problem → ∃ e, problem = .document e ∧ e.key ∈ keys

theorem blames_ok (a : α) : Blames keys (.ok a) := by
  rintro _ ⟨⟩

theorem blames_wrong {e : ConfigError} (h : e.key ∈ keys) : Blames keys (wrong e : Reading α) := by
  rintro _ ⟨⟩
  exact ⟨e, rfl, h⟩

theorem Blames.bind {r : Reading α} {f : α → Reading β} (h : Blames keys r) (hf : ∀ a, Blames keys (f a)) :
    Blames keys (r >>= f) := by
  intro problem herror
  rcases Except.bind_eq_error.mp herror with herror | ⟨a, -, herror⟩
  · exact h problem herror
  · exact hf a problem herror

theorem Blames.ite {p : Prop} [Decidable p] {r r' : Reading α} (h : Blames keys r) (h' : Blames keys r') :
    Blames keys (if p then r else r') := by
  split <;> assumption

section Keys

variable (h : key ∈ keys)
include h

theorem requiredTable_blames : Blames keys (requiredTable data key) := by
  unfold requiredTable
  split
  · exact blames_ok _
  · exact blames_wrong h

theorem optionalTable_blames : Blames keys (optionalTable data key) := by
  unfold optionalTable
  split
  · exact blames_ok _
  · exact blames_ok _
  · exact blames_ok _
  · exact blames_wrong h

theorem requiredText_blames : Blames keys (requiredText data key) := by
  unfold requiredText
  split
  · exact (blames_wrong h).ite (blames_ok _)
  · exact blames_wrong h

theorem optionalText_blames : Blames keys (optionalText data key) := by
  unfold optionalText
  split
  · exact blames_ok _
  · exact blames_ok _
  · exact (blames_wrong h).ite (blames_ok _)
  · exact blames_wrong h

theorem textOr_blames (fallback : String) : Blames keys (textOr data key fallback) := by
  unfold textOr
  split
  · exact (blames_wrong h).ite (blames_ok _)
  · exact blames_wrong h

theorem integerOr_blames (fallback : Int) : Blames keys (integerOr data key fallback) := by
  unfold integerOr
  split
  · exact blames_ok _
  · exact blames_wrong h

theorem positiveOr_blames (fallback : Int) : Blames keys (positiveOr data key fallback) :=
  (integerOr_blames h fallback).bind fun n => (blames_wrong h).ite (blames_ok n)

theorem textsOr_blames (fallback : List String) : Blames keys (textsOr data key fallback) := by
  unfold textsOr
  split
  · exact blames_ok _
  · split
    · exact blames_ok _
    · exact blames_wrong h
  · exact blames_wrong h

theorem requiredLogins_blames : Blames keys (requiredLogins data key) := by
  unfold requiredLogins
  split
  · split
    · exact blames_ok _
    · exact blames_wrong h
  · exact blames_wrong h

end Keys

theorem atLeast_blames (minimum : Nat) (h : "runtime." ++ key ∈ keys) (n : Int) : Blames keys (atLeast minimum key n) :=
  (blames_wrong h).ite (blames_ok _)

/-! ## Tables -/

def runtimeKeys : List String :=
  ["base_dir", "poll_interval_seconds", "worker_count", "gh_timeout_seconds", "gh_max_attempts",
    "runtime.poll_interval_seconds", "runtime.worker_count", "runtime.gh_timeout_seconds", "runtime.gh_max_attempts"]

def repoKeys : List String :=
  ["owner", "name", "mainline_branch", "pages_branches", "deployment_prefixes", "version_file", "status_target_url"]

def governanceKeys : List String :=
  ["trusted_committers", "stale_run_retention_days", "success_retention_days", "failure_retention_days",
    "retention_page_count", "ci_label", "resume_trigger_phrase"]

theorem readRepo_blames : Blames repoKeys (readRepo data) :=
  (requiredText_blames (by decide)).bind fun _ => (requiredText_blames (by decide)).bind fun _ =>
    (textOr_blames (by decide) _).bind fun _ => (textsOr_blames (by decide) _).bind fun _ =>
      (textsOr_blames (by decide) _).bind fun _ => (textOr_blames (by decide) _).bind fun _ =>
        (optionalText_blames (by decide)).bind fun _ => blames_ok _

theorem readGovernance_blames : Blames governanceKeys (readGovernance data) :=
  (requiredLogins_blames (by decide)).bind fun _ => (positiveOr_blames (by decide) _).bind fun _ =>
    (positiveOr_blames (by decide) _).bind fun _ => (positiveOr_blames (by decide) _).bind fun _ =>
      (positiveOr_blames (by decide) _).bind fun _ => (textOr_blames (by decide) _).bind fun _ =>
        (textOr_blames (by decide) _).bind fun _ =>
          ((blames_wrong (by decide)).bind fun _ => blames_ok _).ite (blames_ok _)

/-! ## The home directory -/

/-- The path of a runtime table begins with a tilde and the name of somebody who has no home. -/
def NamesNobody (homes : Homes) (runtime : Members) (e : HomeError) : Prop :=
  ∃ written user rest, SaysText runtime "base_dir" (some "~/.local/share/repowarden") written ∧
    (DirPath.read written).AsksFor user rest ∧ DirPath.Homeless homes user e

theorem directory_eq_error {text : String} :
    directory homes text = .error problem ↔
      ∃ e, (DirPath.read text).expandHome homes = .error e ∧ problem = .home e := by
  unfold directory
  cases (DirPath.read text).expandHome homes <;> simp [eq_comm]

theorem readRuntime_error (h : readRuntime homes data = .error problem) :
    (∃ e, NamesNobody homes data e ∧ problem = .home e) ∨ ∃ e, problem = .document e ∧ e.key ∈ runtimeKeys := by
  rcases Except.bind_eq_error.mp h with h | ⟨written, hwritten, h⟩
  · exact .inr (textOr_blames (by decide) _ _ h)
  rcases Except.bind_eq_error.mp h with h | ⟨dir, -, h⟩
  · obtain ⟨e, he, rfl⟩ := directory_eq_error.mp h
    obtain ⟨user, rest, hasks, hhomeless⟩ := DirPath.expandHome_eq_error.mp he
    exact .inl ⟨e, ⟨written, user, rest, textOr_eq_ok.mp hwritten, hasks, hhomeless⟩, rfl⟩
  · refine .inr (Blames.bind (integerOr_blames (by decide) _) (fun _ => ?_) _ h)
    exact (integerOr_blames (by decide) _).bind fun _ => (integerOr_blames (by decide) _).bind fun _ =>
      (integerOr_blames (by decide) _).bind fun _ => (atLeast_blames _ (by decide) _).bind fun _ =>
        (atLeast_blames _ (by decide) _).bind fun _ => (atLeast_blames _ (by decide) _).bind fun _ =>
          (atLeast_blames _ (by decide) _).bind fun _ => blames_ok _

theorem readRuntime_of_namesNobody {e : HomeError} (h : NamesNobody homes data e) :
    readRuntime homes data = .error (.home e) := by
  obtain ⟨written, user, rest, hwritten, hasks, hhomeless⟩ := h
  refine Except.bind_eq_error.mpr (.inr ⟨written, textOr_eq_ok.mpr hwritten, Except.bind_eq_error.mpr (.inl ?_)⟩)
  exact directory_eq_error.mpr ⟨e, DirPath.expandHome_eq_error.mpr ⟨user, rest, hasks, hhomeless⟩, rfl⟩

/-- A document with its three tables, the path of whose runtime table begins with the name of somebody without a
home. -/
def AsksForHome (homes : Homes) (data : Members) (e : HomeError) : Prop :=
  ∃ runtime repo governance, Tables data runtime repo governance ∧ NamesNobody homes runtime e

/-- **Errors name their keys**: whatever goes wrong, but for the home of somebody, is said of a table or one of its
keys. -/
theorem read_error (h : read homes data = .error problem) :
    (∃ e, AsksForHome homes data e ∧ problem = .home e) ∨
      ∃ e, problem = .document e ∧
        e.key ∈ ["runtime", "repo", "governance"] ++ runtimeKeys ++ repoKeys ++ governanceKeys := by
  rcases Except.bind_eq_error.mp h with h | ⟨runtime, hruntime, h⟩
  · exact .inr (optionalTable_blames (by decide) _ h)
  rcases Except.bind_eq_error.mp h with h | ⟨repo, hrepo, h⟩
  · exact .inr (requiredTable_blames (by decide) _ h)
  rcases Except.bind_eq_error.mp h with h | ⟨governance, hgovernance, h⟩
  · exact .inr (requiredTable_blames (by decide) _ h)
  have htables : Tables data runtime repo governance :=
    ⟨optionalTable_eq_ok.mp hruntime, requiredTable_eq_ok.mp hrepo, requiredTable_eq_ok.mp hgovernance⟩
  rcases Except.bind_eq_error.mp h with h | ⟨_, -, h⟩
  · rcases readRuntime_error h with ⟨e, hnobody, hproblem⟩ | ⟨e, hproblem, he⟩
    · exact .inl ⟨e, ⟨runtime, repo, governance, htables, hnobody⟩, hproblem⟩
    · exact .inr ⟨e, hproblem, by simp [he]⟩
  rcases Except.bind_eq_error.mp h with h | ⟨_, -, h⟩
  · obtain ⟨e, hproblem, he⟩ := readRepo_blames _ h
    exact .inr ⟨e, hproblem, by simp [he]⟩
  rcases Except.bind_eq_error.mp h with h | ⟨_, -, h⟩
  · obtain ⟨e, hproblem, he⟩ := readGovernance_blames _ h
    exact .inr ⟨e, hproblem, by simp [he]⟩
  · cases h

theorem read_of_asksForHome {e : HomeError} (h : AsksForHome homes data e) : read homes data = .error (.home e) := by
  obtain ⟨runtime, repo, governance, htables, hnobody⟩ := h
  refine Except.bind_eq_error.mpr (.inr ⟨runtime, optionalTable_eq_ok.mpr htables.runtime, ?_⟩)
  refine Except.bind_eq_error.mpr (.inr ⟨repo, requiredTable_eq_ok.mpr htables.repo, ?_⟩)
  refine Except.bind_eq_error.mpr (.inr ⟨governance, requiredTable_eq_ok.mpr htables.governance, ?_⟩)
  exact Except.bind_eq_error.mpr (.inl (readRuntime_of_namesNobody hnobody))

/-- **What reading ends with**, whoever has a home. It ends with settings or an error of the document, unless the
document asks for the home directory of somebody who has none. Then it ends with what is wrong with the name, whatever
else the document says. -/
theorem read_outcome (homes : Homes) (data : Members) :
    (((∃ config, read homes data = .ok config) ∨ ∃ e, read homes data = .error (.document e)) ↔
      ¬∃ e, AsksForHome homes data e) ∧
    ∀ e, AsksForHome homes data e → read homes data = .error (.home e) := by
  refine ⟨⟨?_, fun hnobody => ?_⟩, fun e hasks => read_of_asksForHome hasks⟩
  · rintro hend ⟨e, hasks⟩
    simp [read_of_asksForHome hasks] at hend
  · rcases hread : read homes data with problem | config
    · rcases read_error hread with ⟨e, hasks, -⟩ | ⟨e, rfl, -⟩
      · exact absurd ⟨e, hasks⟩ hnobody
      · exact .inr ⟨e, rfl⟩
    · exact .inl ⟨config, rfl⟩

/-- A document whose path begins with the name of somebody. -/
def strangerDocument (name : String) : Members :=
  [("governance", .table [("trusted_committers", .list [.text "alice"])]),
    ("repo", .table [("name", .text "cas"), ("owner", .text "apereo")]),
    ("runtime", .table [("base_dir", .text ("~" ++ name ++ "/x"))])]

/-- A computer with one user, who runs the program. -/
def hermitage : Homes := fun user => if user = none then some "/home/ann" else none

theorem read_outcome_stranger :
    AsksForHome hermitage (strangerDocument "nosuchuser_zz") .unknownUser ∧
      read hermitage (strangerDocument "nosuchuser_zz") = .error (.home .unknownUser) := by
  have hwritten : SaysText [("base_dir", .text "~nosuchuser_zz/x")] "base_dir" (some "~/.local/share/repowarden")
      "~nosuchuser_zz/x" := ⟨rfl, by decide⟩
  have hasks : (DirPath.read "~nosuchuser_zz/x").AsksFor "nosuchuser_zz".toList ["x"] :=
    ⟨rfl, "~nosuchuser_zz", rfl, rfl⟩
  have hhomeless : DirPath.Homeless hermitage "nosuchuser_zz".toList .unknownUser :=
    .unknown (by decide) fun home hhome => by cases hhome
  have hdocument : AsksForHome hermitage (strangerDocument "nosuchuser_zz") .unknownUser :=
    ⟨_, _, _, ⟨.inl rfl, rfl, rfl⟩, _, _, _, hwritten, hasks, hhomeless⟩
  exact ⟨hdocument, (read_outcome hermitage _).2 _ hdocument⟩

/-- Neither settings nor an error of the document: nobody has the name, or nobody can have it. -/
theorem stranger_has_no_home :
    read hermitage (strangerDocument "nosuchuser_zz") = .error (.home .unknownUser) ∧
      read hermitage (strangerDocument "a\x00b") = .error (.home .impossibleUser) ∧
        ¬∀ data, (∃ config, read hermitage data = .ok config) ∨ ∃ e, read hermitage data = .error (.document e) := by
  have hunknown : read hermitage (strangerDocument "nosuchuser_zz") = .error (.home .unknownUser) := rfl
  refine ⟨hunknown, rfl, fun hall => ?_⟩
  have hend := hall (strangerDocument "nosuchuser_zz")
  simp [hunknown] at hend

end Config

end RunSteward
