import RunSteward.Command.Transcript
import RunSteward.CommandLine.Errands
import RunSteward.Config.Reader
import RunSteward.Config.Toml.Reader
import RunSteward.Log.DailyFile

/-!
# The program

The outer layer. Commands are run by a relay, a companion that takes one command a line from one pipe and writes how it
ended, one line for each, to another. All that is decided is decided by the acts; here their commands are passed on, and
what they print and log is written.
-/

namespace RunSteward.Main

/-! ## The relay -/

/-- The two pipes of a relay. -/
structure Relay where
  requests : IO.FS.Handle
  replies : IO.FS.Handle

/-- A command as the relay takes it. -/
def commandData (c : Command) : Json :=
  .object [("argv", .array (c.argv.map .string)), ("stdin", (c.stdin.map .string).getD .null),
    ("timeout", (c.timeLimit.map .number).getD .null)]

/-- The end of a command as the relay tells it. -/
def endOf (reply : String) : CommandEnd :=
  match Json.read 8 reply with
  | .ok (some (.object m)) =>
    match Json.get m "rc", Json.get m "out", Json.get m "err" with
    | .number (.whole code), .string output, .string errors => .exited code output errors
    | _, _, _ => .timedOut
  | _ => .timedOut

/-- Has a command run. -/
def Relay.ask (r : Relay) (c : Command) : IO CommandEnd := do
  r.requests.putStrLn (Json.write (commandData c))
  r.requests.flush
  return endOf (← r.replies.getLine)

def Relay.now (r : Relay) : IO Stamp := do
  let shown ← r.ask { argv := ["date", "-u", "+%Y-%m-%dT%H:%M:%S+00:00"] }
  let text := match shown with
    | .exited _ output _ => Text.trim output
    | .timedOut => ""
  return (Stamp.read? text).getD ⟨.first, .midnight, some .utc⟩

/-! ## Doing acts -/

/-- The milliseconds of a number of seconds. -/
def milliseconds : Number → Nat
  | .whole n => n.toNat * 1000
  | .real (.finite false m e) => m * 1000 * Nat.pow 2 e.toNat / Nat.pow 2 (-e).toNat
  | .real _ => 0

def rest (n : Number) : IO Unit :=
  IO.sleep (milliseconds n).toUInt32

/-- Does an act, command by command. -/
partial def settle {α : Type} (r : Relay) (now : Stamp) (cache : ReplyCache)
    (act : Act (Session Transcript) α) (ends : List CommandEnd) :
    IO (Except Failure α × Desk (Session Transcript)) := do
  let result := act {} ⟨{ world := { ends, clock := now }, cache }, #[]⟩
  let t := result.2.world.world
  match t.pending with
  | none => return result
  | some c =>
    t.due.forM rest
    settle r now cache act (ends ++ [← r.ask c])

/-! ## Writing -/

/-- Writes the log to the error stream and to the file of the day. -/
def writeLog (i : Invocation) (config : AppConfig) (now : Stamp) (records : List LogRecord) :
    IO Unit := do
  let texts := (i.logSetup.texts records).map fun t => now.text ++ " " ++ t
  texts.forM IO.eprintln
  if i.logSetup.toFiles ∧ !texts.isEmpty then
    let dir := config.runtime.baseDir.text ++ "/logs"
    IO.FS.createDirAll dir
    let file ← IO.FS.Handle.mk (dir ++ "/" ++ DailyFiles.fileName now.dayName) .append
    texts.forM file.putStrLn

def writeFrame (f : Frame) : IO Unit := do
  IO.println f.heading
  f.rows.forM fun row => IO.println ("\t".intercalate row)

def complain (why : String) : IO UInt32 := do
  IO.eprintln why
  return 1

/-- What there is to say about a failure. -/
def failureText : Failure → String
  | .host e => e.kind.name ++ ": " ++ e.message
  | .fault f => f.message?.getD "the work cannot go on"

/-! ## Errands -/

/-- The circumstances of one pass and one frame. -/
def circumstances : Circumstances Transcript :=
  { station := Transcript.station, pageLimit := 100000, wait := fun _ => pure true, passes := 1
    keys := [] }

mutual

/-- Does an errand, from pass to pass and from frame to frame. -/
partial def work (r : Relay) (i : Invocation) (config : AppConfig) (cache : ReplyCache) :
    IO UInt32 := do
  let now ← r.now
  let (result, desk) ← settle r now cache (circumstances.perform config i.errand) []
  writeLog i config now desk.log.toList
  match result with
  | .error e => complain (failureText e)
  | .ok f =>
    IO.print f.output
    f.frames.forM writeFrame
    if f.stopped then
      rest (.whole config.runtime.pollIntervalSeconds)
      work r i config desk.world.cache
    else if f.frames.isEmpty then return f.code.toUInt32
    else view r i config desk.world.cache

/-- Waits for a key of the viewer. -/
partial def view (r : Relay) (i : Invocation) (config : AppConfig) (cache : ReplyCache) :
    IO UInt32 := do
  let line ← (← IO.getStdin).getLine
  if line.isEmpty then return 0
  else
    match ViewerKey.ofName (Text.trim line) with
    | .quit => return 0
    | .refresh => work r i config cache
    | .other => view r i config cache

end

/-- The home directories of the accounts on file, and the own one. -/
def homesOf (own : Option String) (accounts : String) : Homes
  | none => own
  | some name =>
    (Text.lines accounts.toList).findSome? fun line =>
      match (Text.fields ':' line).map String.ofList with
      | [user, _, _, _, _, home, _] => if user = name then some home else none
      | _ => none

def load (path : DirPath) : IO (Except String AppConfig) := do
  let homes := homesOf (← IO.getEnv "HOME") (← IO.FS.readFile "/etc/passwd")
  let text ← IO.FS.readFile path.text
  match Toml.read? text with
  | none => return .error "the settings are not a document"
  | some data =>
    match Config.read homes data with
    | .ok config => return .ok config
    | .error (.document e) => return .error e.message
    | .error (.home _) => return .error "there is no such home directory"

/-- The settings in the file that the command line names. -/
def loadNamed : Option String → IO (Except String AppConfig)
  | some name => load (.read name)
  | none => return .error "no settings are named"

end RunSteward.Main

open RunSteward Main in
/-- Reads the command line and does the errand. -/
def main (words : List String) : IO UInt32 := do
  match Invocation.read words with
  | .error .helpWanted =>
    IO.println "run | plan | status | merge-with-base | merge | resume-ci"
    return 0
  | .error .rejected =>
    IO.eprintln "the command line is not understood"
    return 2
  | .ok i =>
    match ← loadNamed i.config with
    | .error why => complain why
    | .ok config =>
      if i.errand.makesBaseDir then IO.FS.createDirAll config.runtime.baseDir.text
      let requests ← IO.FS.Handle.mk "relay.requests" .write
      let replies ← IO.FS.Handle.mk "relay.replies" .read
      work ⟨requests, replies⟩ i config []
