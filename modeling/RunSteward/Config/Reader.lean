import RunSteward.Config.Document
import RunSteward.Config.Settings

/-!
# Reading settings

Settings are read from a document with the tables `runtime`, `repo` and `governance`. The first thing that is wrong
decides the error; keys that are not known are passed over.
-/

namespace RunSteward

/-- What is wrong with a document. -/
inductive ConfigError where
  | tableMissing (key : String)
  | tableExpected (key : String)
  | textMissing (key : String)
  | textExpected (key : String)
  | optionalTextExpected (key : String)
  | integerExpected (key : String)
  | positiveExpected (key : String)
  | listExpected (key : String)
  | listOfTextsExpected (key : String)
  | loginsExpected (key : String)
  | belowMinimum (key : String) (minimum : Nat)
  | blank (key : String)
deriving DecidableEq, Repr

def ConfigError.message : ConfigError → String
  | .tableMissing key => "[" ++ key ++ "] is required and must be a TOML table"
  | .tableExpected key => "[" ++ key ++ "] must be a TOML table when provided"
  | .textMissing key => key ++ " is required and must be a non-empty string"
  | .textExpected key => key ++ " must be a non-empty string"
  | .optionalTextExpected key => key ++ " must be a non-empty string if provided"
  | .integerExpected key => key ++ " must be an integer"
  | .positiveExpected key => key ++ " must be an integer >= 1"
  | .listExpected key => key ++ " must be a list of strings"
  | .listOfTextsExpected key => key ++ " must be a list of non-empty strings"
  | .loginsExpected key => key ++ " is required and must be a non-empty list of strings"
  | .belowMinimum key minimum => key ++ " must be >= " ++ toString minimum
  | .blank key => key ++ " must not be blank"

/-- Why no settings are had: the document is wrong, or a home directory is not found. -/
inductive ConfigProblem where
  | document (e : ConfigError)
  | home (e : HomeError)
deriving DecidableEq, Repr

namespace Config

open Document (Members find?)

abbrev Reading := Except ConfigProblem

def wrong {α : Type} (e : ConfigError) : Reading α :=
  .error (.document e)

/-! ## Tables -/

def requiredTable (data : Members) (key : String) : Reading Members :=
  match find? data key with
  | some (.table ms) => .ok ms
  | _ => wrong (.tableMissing key)

def optionalTable (data : Members) (key : String) : Reading Members :=
  match find? data key with
  | none => .ok []
  | some .absent => .ok []
  | some (.table ms) => .ok ms
  | some _ => wrong (.tableExpected key)

/-! ## Texts -/

/-- A text that must be there and not be empty. -/
def requiredText (data : Members) (key : String) : Reading String :=
  match find? data key with
  | some (.text s) => if s.isEmpty then wrong (.textMissing key) else .ok s
  | _ => wrong (.textMissing key)

/-- A text that may be left out; it is empty then. -/
def optionalText (data : Members) (key : String) : Reading String :=
  match find? data key with
  | none => .ok ""
  | some .absent => .ok ""
  | some (.text s) => if s.isEmpty then wrong (.optionalTextExpected key) else .ok s
  | some _ => wrong (.optionalTextExpected key)

def textOr (data : Members) (key fallback : String) : Reading String :=
  match (find? data key).getD (.text fallback) with
  | .text s => if s.isEmpty then wrong (.textExpected key) else .ok s
  | _ => wrong (.textExpected key)

/-! ## Integers -/

def integerOr (data : Members) (key : String) (fallback : Int) : Reading Int :=
  match (find? data key).getD (.whole fallback) with
  | .whole n => .ok n
  | _ => wrong (.integerExpected key)

def positiveOr (data : Members) (key : String) (fallback : Int) : Reading Int := do
  let n ← integerOr data key fallback
  if n < 1 then wrong (.positiveExpected key) else return n

/-- Refuses a number of the runtime table that is below its minimum. -/
def atLeast (minimum : Nat) (key : String) (n : Int) : Reading Unit :=
  if n < minimum then wrong (.belowMinimum ("runtime." ++ key) minimum) else .ok ()

/-! ## Lists of texts -/

/-- The items of a list as trimmed texts; all of them must be texts that are not blank. -/
def trimmedTexts? (items : List Document) : Option (List String) :=
  items.mapM fun item =>
    match item with
    | .text s =>
      let t := Text.trim s
      if t.isEmpty then none else some t
    | _ => none

/-- The items of a list without those that came before. -/
def distinct (items : List String) : List String :=
  items.foldl (fun seen s => if seen.contains s then seen else seen ++ [s]) []

def textsOr (data : Members) (key : String) (fallback : List String) : Reading (List String) :=
  match find? data key with
  | none => .ok fallback
  | some (.list items) =>
    match trimmedTexts? items with
    | some texts => .ok (distinct texts)
    | none => wrong (.listOfTextsExpected key)
  | some _ => wrong (.listExpected key)

/-- A list of logins that must be there and not be empty. -/
def requiredLogins (data : Members) (key : String) : Reading (List String) :=
  match find? data key with
  | some (.list (item :: items)) =>
    match trimmedTexts? (item :: items) with
    | some texts => .ok (distinct texts)
    | none => wrong (.loginsExpected key)
  | _ => wrong (.loginsExpected key)

/-! ## Settings -/

/-- The path of a directory, its home directory found. -/
def directory (homes : Homes) (text : String) : Reading DirPath :=
  match (DirPath.read text).expandHome homes with
  | .ok p => .ok p
  | .error e => .error (.home e)

def readRuntime (homes : Homes) (data : Members) : Reading RuntimeSettings := do
  let dir ← textOr data "base_dir" "~/.local/share/repowarden"
  let baseDir ← directory homes dir
  let poll ← integerOr data "poll_interval_seconds" 300
  let workers ← integerOr data "worker_count" 4
  let timeout ← integerOr data "gh_timeout_seconds" 60
  let attempts ← integerOr data "gh_max_attempts" 3
  atLeast 30 "poll_interval_seconds" poll
  atLeast 1 "worker_count" workers
  atLeast 1 "gh_timeout_seconds" timeout
  atLeast 1 "gh_max_attempts" attempts
  return ⟨baseDir, poll, workers, timeout, attempts⟩

def readRepo (data : Members) : Reading RepoSettings := do
  let owner ← requiredText data "owner"
  let name ← requiredText data "name"
  let mainline ← textOr data "mainline_branch" "master"
  let pages ← textsOr data "pages_branches" ["gh-pages"]
  let deployments ← textsOr data "deployment_prefixes" ["heroku"]
  let versionFile ← textOr data "version_file" "gradle.properties"
  let target ← optionalText data "status_target_url"
  return ⟨owner, name, mainline, pages, deployments, versionFile, target⟩

def readGovernance (data : Members) : Reading GovernanceSettings := do
  let trusted ← requiredLogins data "trusted_committers"
  let stale ← positiveOr data "stale_run_retention_days" 30
  let success ← positiveOr data "success_retention_days" 2
  let failure ← positiveOr data "failure_retention_days" 7
  let pages ← positiveOr data "retention_page_count" 20
  let label ← textOr data "ci_label" "CI"
  let phrase ← textOr data "resume_trigger_phrase" "@apereocas-bot runci"
  let phrase := Text.trim phrase
  if phrase.isEmpty then wrong (.blank "resume_trigger_phrase")
  return ⟨trusted, stale, success, failure, pages, label, phrase⟩

def read (homes : Homes) (data : Members) : Reading AppConfig := do
  let runtimeData ← optionalTable data "runtime"
  let repoData ← requiredTable data "repo"
  let governanceData ← requiredTable data "governance"
  let runtime ← readRuntime homes runtimeData
  let repo ← readRepo repoData
  let governance ← readGovernance governanceData
  return ⟨runtime, repo, governance⟩

end Config

end RunSteward
