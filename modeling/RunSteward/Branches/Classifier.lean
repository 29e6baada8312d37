import RunSteward.Config.Settings
import RunSteward.Text.Case
import RunSteward.Version.Line

/-!
# Classes of branches

A branch is the main branch, a maintenance branch, a branch of web pages, a deployment branch or another one. The main
branch and the others are governed; a maintenance branch is governed while an open milestone is planned for its line.
-/

namespace RunSteward

inductive BranchCategory where
  | mainline
  | milestone
  | pages
  | deployment
  | other
deriving DecidableEq, Repr

def BranchCategory.name : BranchCategory → String
  | .mainline => "mainline"
  | .milestone => "milestone"
  | .pages => "pages"
  | .deployment => "deployment"
  | .other => "other"

/-- Which names mark the main branch, the branches of web pages and the deployment branches. -/
structure Classifier where
  mainlineBranch : String
  pagesBranches : List String := ["gh-pages"]
  deploymentPrefixes : List String := ["heroku"]
deriving DecidableEq, Repr

namespace Classifier

def ofRepo (r : RepoSettings) : Classifier :=
  ⟨r.mainlineBranch, r.pagesBranches, r.deploymentPrefixes⟩

/-- Tells whether a name is a deployment name itself, or one with a slash or a hyphen behind it. -/
def isDeploymentOf (name deployment : String) : Bool :=
  name == deployment
    || (deployment.toList ++ ['/']).isPrefixOf name.toList
    || (deployment.toList ++ ['-']).isPrefixOf name.toList

/-- The class of a branch name. Case is ignored, except in the names of maintenance branches. -/
def classify (k : Classifier) (name : String) : BranchCategory :=
  let trimmed := Text.trim name
  let lowered := Text.lower trimmed
  if lowered = Text.lower k.mainlineBranch then .mainline
  else if isLineBranch trimmed then .milestone
  else if k.pagesBranches.any fun p => lowered == Text.lower p then .pages
  else if k.deploymentPrefixes.any fun p => isDeploymentOf lowered (Text.lower p) then .deployment
  else .other

def isGoverned (k : Classifier) (name : String) (milestones : List Milestone) :
    Except Fault Bool :=
  match k.classify name with
  | .mainline => .ok true
  | .milestone => (milestoneForBranch name milestones).map Option.isSome
  | .pages => .ok false
  | .deployment => .ok false
  | .other => .ok true

end Classifier

end RunSteward
