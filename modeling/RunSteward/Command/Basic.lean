import RunSteward.Number.Shortest
import RunSteward.Text.ShellWord

/-!
# Commands

A command is a program with its arguments, the text that it reads and the time that it may take. It ends on its own with
an exit code and two outputs, or its time runs out.
-/

namespace RunSteward

structure Command where
  argv : List String
  stdin : Option String := none
  timeLimit : Option Number := none
  directory : Option String := none

inductive CommandEnd where
  | timedOut
  | exited (code : Int) (output errors : String)
deriving DecidableEq, Repr

namespace Command

/-- The command as a shell would take it. -/
def line (c : Command) : String :=
  Text.shellLine c.argv

def limitText (c : Command) : String :=
  match c.timeLimit with
  | some n => n.text
  | none => "None"

end Command

/-- Why a command gave no output. -/
inductive CommandFailure where
  | timedOut (command : Command)
  | failed (command : Command) (code : Int) (output errors : String)

namespace CommandFailure

def message : CommandFailure → String
  | .timedOut c => "Command timed out after " ++ c.limitText ++ "s\ncmd: " ++ c.line
  | .failed c code output errors =>
    "\n".intercalate ["Command failed", "cmd: " ++ c.line, "exit: " ++ toString code,
      "stdout:\n" ++ output, "stderr:\n" ++ errors]

end CommandFailure

end RunSteward
