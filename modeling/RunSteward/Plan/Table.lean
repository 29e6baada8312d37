import RunSteward.Governance.Action
import RunSteward.Json.Basic
import RunSteward.Text.Excerpt

/-!
# The plan as a table and as data

What a pass would do is shown as a table under a line of counts, or it is written as a list of objects.
-/

namespace RunSteward

namespace Report

/-- The greatest width of a reason in the table. -/
def reasonWidth : Int := 40

/-- The row of an action; an empty branch is shown as a hyphen. -/
def row (a : Action) : List String :=
  [a.policy.name, a.kind.name, toString a.runId, a.runName,
    if a.headBranch.isEmpty then "-" else a.headBranch, Text.truncateCell a.reason reasonWidth]

/-- The row that stands for an empty plan. -/
def emptyRow : List String :=
  ["-", "-", "-", "-", "-", "Nothing to do"]

def rows (r : Report) : List (List String) :=
  if r.actions.isEmpty then [emptyRow] else r.actions.map row

/-- The lines above the table. -/
def heading (r : Report) (repo : String) : String :=
  " | ".intercalate
      ["repo=" ++ repo,
        "cancel=" ++ toString (r.count (some .cancel) none),
        "remove=" ++ toString (r.count (some .remove) none),
        "failed=" ++ toString (r.count none (some .failed))]
    ++ "\nKeys: r refresh | q quit"

/-- An action as an object. -/
def actionData (a : Action) : Json :=
  .object [("policy", .string a.policy.name), ("action", .string a.kind.name),
    ("run_id", .number (.whole a.runId)), ("workflow", .string a.runName),
    ("head_branch", .string a.headBranch), ("reason", .string a.reason),
    ("outcome", .string a.outcome.name)]

/-- A report as a list of objects. -/
def data (r : Report) : Json :=
  .array (r.actions.map actionData)

end Report

end RunSteward
