import RunSteward.Config.Settings
import RunSteward.Host

/-!
# Resuming CI

A trusted committer lets CI run once more by a comment that holds nothing but the trigger phrase. The comment must be
the latest one; it is deleted, and the deletion is what makes the permission good for one time only.
-/

namespace RunSteward

variable {σ : Type}

/-- What grants permission to resume CI. -/
structure ResumeGate (σ : Type) where
  host : Host σ
  settings : GovernanceSettings

namespace ResumeGate

def logger : String := "repowarden.resume"

/-- Tells whether a comment, blanks around it aside, is the trigger phrase. -/
def isCommand (settings : GovernanceSettings) (c : Comment) : Bool :=
  Text.trim c.body == settings.resumeTriggerPhrase

/-- Notes in the log why permission is not granted. -/
def skip (number : Int) (reason : String) (more : LogFields) : Act σ Unit :=
  Act.info logger "ci_resume_skipped"
    ([("pr_number", .int number), ("reason", .text reason)] ++ more)

/-- Deletes the comment that asks for CI; permission is granted if that works. -/
def consume (g : ResumeGate σ) (number : Int) (c : Comment) : Act σ Bool := do
  match ← Act.attempt (g.host.removeComment c.id) with
  | .error e =>
    Act.warn logger "ci_resume_comment_remove_failed"
      ([("pr_number", .int number), ("comment_id", .int c.id)] ++ Act.errorFields e)
    return false
  | .ok () =>
    Act.info logger "ci_resume_authorized"
      [("pr_number", .int number), ("comment_id", .int c.id), ("author", .text c.authorLogin)]
    return true

/-- Judges the comments of a pull request. -/
def judge (g : ResumeGate σ) (number : Int) (comments : List Comment) : Act σ Bool := do
  match Comment.latest? comments with
  | none =>
    skip number "no_comments" []
    return false
  | some c =>
    if !isCommand g.settings c then
      skip number "not_a_command" []
      return false
    else if !g.settings.isTrusted c.authorLogin then
      skip number "untrusted_author" [("author", .text c.authorLogin)]
      return false
    else g.consume number c

/-- Tells whether CI shall be resumed for a pull request. -/
def shouldResume (g : ResumeGate σ) (pr : PullRequest) : Act σ Bool := do
  match ← Act.attempt (g.host.collect (.comments pr.number)) with
  | .error e =>
    Act.warn logger "ci_resume_comments_fetch_failed"
      (("pr_number", .int pr.number) :: Act.errorFields e)
    return false
  | .ok comments => g.judge pr.number comments

end ResumeGate

end RunSteward
