import RunSteward.Command.Station

/-!
# Transcripts

A transcript holds how the commands of an act ended so far, in order. The act is done again from the start with one more
end at a time, until it asks for no further command; what it does behind the first command without an end does not
count.
-/

namespace RunSteward

/-- The ends that are still to be used, and what the act waits for. -/
structure Transcript where
  ends : List CommandEnd
  clock : Stamp
  /-- The first command without an end. -/
  pending : Option Command := none
  /-- The pauses behind the last command that has an end. -/
  due : List Number := []

namespace Transcript

/-- How a command ended; a command without an end is noted if it is the first one. -/
def run (c : Command) (t : Transcript) : CommandEnd × Transcript :=
  match t.pending, t.ends with
  | some _, _ => (.timedOut, t)
  | none, e :: es => (e, { t with ends := es, due := [] })
  | none, [] => (.timedOut, { t with pending := some c })

def pause (n : Number) (t : Transcript) : Transcript :=
  if t.pending.isSome then t else { t with due := t.due ++ [n] }

def station : Station Transcript where
  run := run
  pause := pause
  now := Transcript.clock

end Transcript

end RunSteward
