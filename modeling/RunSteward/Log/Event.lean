import RunSteward.Json.Writer
import RunSteward.Text.Excerpt
import RunSteward.Time.Stamp

/-!
# Log events

An event is logged as one line of pairs: the name of the event first, and its fields sorted by key. A value that holds
white space or an equals sign is written as a string literal, so that the pairs stay apart.
-/

namespace RunSteward

inductive LogValue where
  | none
  | flag (b : Bool)
  | number (n : Number)
  | text (s : String)
  | time (t : Stamp)
  /-- Some other thing, of which only the kind is shown. -/
  | other (kind : String)
deriving Inhabited

namespace LogValue

def int (n : Int) : LogValue :=
  .number (.whole n)

/-- A text in the log that may be absent. -/
def maybe (s : Option String) : LogValue :=
  (s.map .text).getD .none

/-- The plain form of a value. -/
def plain : LogValue → List Char
  | .none => "null".toList
  | .flag b => (if b then "true" else "false").toList
  | .number n => n.text.toList
  | .text s => Text.squash s.toList
  | .time t => t.text.toList
  | .other kind => '<' :: (kind.toList ++ ['>'])

/-- Tells whether a plain form could be mistaken for something else in a line of pairs. -/
def needsQuotes (s : List Char) : Bool :=
  s.contains '=' || s.any Text.isBlank

def render (v : LogValue) : List Char :=
  let s := v.plain
  if needsQuotes s then (Json.stringLiteral (String.ofList s)).toList else s

end LogValue

abbrev LogFields := List (String × LogValue)

namespace LogEvent

def pairText (p : String × LogValue) : List Char :=
  p.1.toList ++ '=' :: p.2.render

/-- Fields sorted by key. -/
def sortFields (fields : LogFields) : LogFields :=
  fields.mergeSort fun a b => decide (a.1 ≤ b.1)

def message (event : String) (fields : LogFields) : String :=
  String.ofList ([' '].intercalate
    ((("event", LogValue.text event) :: sortFields fields).map pairText))

/-- The name of the event that a message tells of, if it is the message of an event. -/
def name? (message : String) : Option String :=
  let head := message.toList.takeWhile (· != ' ')
  match Text.cut? '=' head with
  | some (key, name) =>
    if key = "event".toList ∧ !name.isEmpty then some (String.ofList name) else none
  | none => none

end LogEvent

end RunSteward
