import RunSteward.Failure
import RunSteward.Json.Display
import RunSteward.Text.Case
import RunSteward.Text.Digit
import RunSteward.Time.Reader

/-!
# Values in payloads

A payload is what the body of a reply holds. Its values are taken as texts, integers and points in time; a value that
cannot be taken as what is wanted is a transient error.
-/

namespace RunSteward

abbrev Reading (α : Type) := Except HostError α

namespace Payload

def unexpected {α : Type} (what : String) : Reading α :=
  .error ⟨.transient, "Unexpected GitHub " ++ what⟩

/-! ## Texts -/

/-- A value as a text; null is the empty text. -/
def text : Json → String
  | .null => ""
  | v => v.plainText

def text? : Json → Option String
  | .null => none
  | v => some v.plainText

/-- A value as a text, with another one in place of the empty text. -/
def textOr (fallback : String) (v : Json) : String :=
  let s := text v
  if s.isEmpty then fallback else s

/-- A value as a trimmed text in lower case; an empty one is absent. -/
def lowered? (v : Json) : Option String :=
  (text? v).bind fun s =>
    let s := Text.lower (Text.trim s)
    if s.isEmpty then none else some s

def lowered (v : Json) : String :=
  (lowered? v).getD ""

/-- A value as a login; what is not a text is no login. -/
def login : Json → String
  | .string s => Text.trim s
  | _ => ""

/-! ## Numbers -/

/-- A value as an integer: an integer itself, or a text that denotes one. -/
def int (field : String) : Json → Reading Int
  | .number (.whole n) => .ok n
  | .string s =>
    match Text.integer? s.toList with
    | some n => .ok n
    | none => unexpected ("response value for " ++ field ++ ": " ++ s)
  | _ => unexpected ("response type for " ++ field)

def int? : Json → Reading (Option Int)
  | .null => .ok none
  | v => (int "optional int field" v).map some

def count (v : Json) : Reading Int :=
  (int? v).map fun n => n.getD 0

/-! ## Points in time -/

/-- A time with the letter Z at its end spelled out as an offset of zero. -/
def spellZulu (s : String) : String :=
  match s.toList.reverse with
  | 'Z' :: before => String.ofList before.reverse ++ "+00:00"
  | _ => s

/-- A value as a point in time; a time without an offset is taken as universal time. -/
def time (field : String) : Json → Reading Stamp
  | .string s =>
    let written := Text.trim s
    if written.isEmpty then unexpected ("response type for " ++ field)
    else
      match Stamp.read? (spellZulu written) with
      | some t => .ok t.aware
      | none => unexpected ("timestamp for " ++ field ++ ": " ++ s)
  | _ => unexpected ("response type for " ++ field)

/-- Tells whether a value counts as given: null, `false`, zero and what is empty do not. -/
def isGiven : Json → Bool
  | .null => false
  | .bool b => b
  | .number (.whole n) => n != 0
  | .number (.real (.finite _ m _)) => m != 0
  | .number (.real _) => true
  | .string s => !s.isEmpty
  | .array items => !items.isEmpty
  | .object members => !members.isEmpty

def time? (field : String) (v : Json) : Reading (Option Stamp) :=
  if isGiven v then (time field v).map some else .ok none

/-! ## Objects and lists -/

/-- The member of an object inside a value; null if there is no such object. -/
def inner (v : Json) (name : String) : Json :=
  match v with
  | .object members => Json.get members name
  | _ => .null

/-- Reads the objects of a list; whatever else the list holds is passed over. -/
def list {α : Type} (what : String) (item : List (String × Json) → Reading α) :
    Json → Reading (List α)
  | .array items => (items.filterMap Json.object?).mapM item
  | _ => unexpected ("response: expected list for " ++ what)

def object {α : Type} (what : String) (read : List (String × Json) → Reading α) : Json → Reading α
  | .object members => read members
  | _ => unexpected ("response: expected object for " ++ what)

end Payload

end RunSteward
