import RunSteward.Act
import RunSteward.Command.Basic
import RunSteward.Text.Excerpt

/-!
# Stations

A station is where the program works: it runs commands, lets time pass and has a clock. A command that gives no output
is noted in the log.
-/

namespace RunSteward

/-- A station on a world of type `σ`. -/
structure Station (σ : Type) where
  run : Command → σ → CommandEnd × σ
  pause : Number → σ → σ
  now : σ → Stamp

namespace Station

variable {σ : Type}

def logger : String := "repowarden.shell"

/-- The number of characters of an output that the log shows. -/
def previewLimit : Int := 200

/-- What the log says about a failure. -/
def failureNote : CommandFailure → String
  | .timedOut c =>
    "event=command_timed_out command=" ++ c.line ++ " timeout_seconds=" ++ c.limitText
  | .failed c code output errors =>
    "event=command_failed command=" ++ c.line ++ " exit_code=" ++ toString code
      ++ " stderr=" ++ Text.previewOutput errors previewLimit
      ++ " stdout=" ++ Text.previewOutput output previewLimit

/-- The output of a command that ended, or why there is none; the exit code matters only if it is checked. -/
def judge (checked : Bool) (c : Command) : CommandEnd → Except CommandFailure String
  | .timedOut => .error (.timedOut c)
  | .exited code output errors =>
    if checked ∧ code ≠ 0 then .error (.failed c code output errors) else .ok output

def call (st : Station σ) (checked : Bool) (c : Command) : Act σ (Except CommandFailure String) := do
  let result := judge checked c (← Act.outside (st.run c))
  match result with
  | .ok _ => pure ()
  | .error f => Act.record .error logger (failureNote f)
  return result

def wait (st : Station σ) (seconds : Number) : Act σ Unit :=
  Act.outside fun w => ((), st.pause seconds w)

def clock (st : Station σ) : Act σ Stamp :=
  Act.outside fun w => (st.now w, w)

end Station

end RunSteward
