import RunSteward.Text.Line
import RunSteward.Time.Stamp

/-!
# Daily log files

Lines go to one file for each day, named after the day that the clock shows. A line is added at the end of its file,
also when the clock goes back to an earlier day.
-/

namespace RunSteward

/-- The log files by name, in the order in which they were made, and the day whose file is open. -/
structure DailyFiles where
  files : List (String × String) := []
  openDay : Option String := none
deriving DecidableEq, Repr

namespace DailyFiles

/-- The name of the file of a day. -/
def fileName (day : String) : String :=
  day ++ ".log"

/-- Adds text at the end of a file; a file that is missing is made. -/
def append (name text : String) : List (String × String) → List (String × String)
  | [] => [(name, text)]
  | f :: fs => if f.1 = name then (name, f.2 ++ text) :: fs else f :: append name text fs

/-- The lines of a file to which texts were written in turn; a text with line breaks in it takes several. -/
def linesOf (texts : List String) : List String :=
  texts.flatMap fun t => (Text.lines (t ++ "\n").toList).map String.ofList

/-- Opens the file of a day in place of the one that is open. -/
def switchTo (d : DailyFiles) (day : String) : DailyFiles :=
  { files := append (fileName day) "" d.files, openDay := some day }

def write (d : DailyFiles) (text : String) : DailyFiles :=
  match d.openDay with
  | some day => { d with files := append (fileName day) text d.files }
  | none => d

/-- Writes a line while the clock shows a day. -/
def emit (d : DailyFiles) (day line : String) : DailyFiles :=
  (if d.openDay = some day then d else d.switchTo day).write (line ++ "\n")

/-- Closes the file that is open. -/
def close (d : DailyFiles) : DailyFiles :=
  { d with openDay := none }

end DailyFiles

/-- A log directory, and what becomes of lines when it cannot be opened. -/
structure DailyLog where
  blocked : Bool
  kept : DailyFiles := {}
  lost : List String := []

namespace DailyLog

/-- Writes a line. A file that has to be opened takes the place of the one that is open; if the directory cannot be
opened then, the line is handed over as lost, and no file is open any more. -/
def emit (l : DailyLog) (now : Stamp) (line : String) : DailyLog :=
  if l.blocked ∧ l.kept.openDay ≠ some now.dayName then { l with kept := l.kept.close, lost := l.lost ++ [line] }
  else { l with kept := l.kept.emit now.dayName line }

/-- Writes lines in turn and closes the file in the end. -/
def emitAll (l : DailyLog) (writes : List (Stamp × String)) : DailyLog :=
  let l := writes.foldl (fun l w => l.emit w.1 w.2) l
  { l with kept := l.kept.close }

end DailyLog

end RunSteward
