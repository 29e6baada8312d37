import RunSteward.Config.DirPath
import RunSteward.Text.Blank

/-!
# Settings

What the program is told: how it runs, which repository it looks after and how it governs the runs there.
-/

namespace RunSteward

/-- How the program runs. -/
structure RuntimeSettings where
  baseDir : DirPath
  pollIntervalSeconds : Int := 300
  workerCount : Int := 4
  ghTimeoutSeconds : Int := 60
  ghMaxAttempts : Int := 3
deriving DecidableEq, Repr

/-- Which repository the program looks after. -/
structure RepoSettings where
  owner : String
  name : String
  mainlineBranch : String := "master"
  pagesBranches : List String := ["gh-pages"]
  deploymentPrefixes : List String := ["heroku"]
  versionFile : String := "gradle.properties"
  statusTargetUrl : String := ""
deriving DecidableEq, Repr

namespace RepoSettings

def fullName (r : RepoSettings) : String :=
  r.owner ++ "/" ++ r.name

def htmlUrl (r : RepoSettings) : String :=
  "https://github.com/" ++ r.fullName

end RepoSettings

structure GovernanceSettings where
  trustedCommitters : List String
  staleRunRetentionDays : Int := 30
  successRetentionDays : Int := 2
  failureRetentionDays : Int := 7
  retentionPageCount : Int := 20
  ciLabel : String := "CI"
  resumeTriggerPhrase : String := "@apereocas-bot runci"
deriving DecidableEq, Repr

/-- Tells whether a login, blanks around it aside, is that of a trusted committer. -/
def GovernanceSettings.isTrusted (g : GovernanceSettings) (login : String) : Bool :=
  let login := Text.trim login
  !login.isEmpty && g.trustedCommitters.contains login

structure AppConfig where
  runtime : RuntimeSettings
  repo : RepoSettings
  governance : GovernanceSettings
deriving DecidableEq, Repr

end RunSteward
