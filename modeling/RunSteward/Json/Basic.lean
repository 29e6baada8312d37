import RunSteward.Number.Shortest

/-!
# JSON values

A JSON document as a value. Integers keep their size and stay apart from binary64 numbers, and an object keeps its
members in the order in which their names first came.
-/

namespace RunSteward

inductive Json where
  | null
  | bool (b : Bool)
  | number (n : Number)
  | string (s : String)
  | array (items : List Json)
  | object (members : List (String × Json))
deriving Inhabited

namespace Json

/-- Gives a name a value: in place if the name is known, at the end if it is new. -/
def put (members : List (String × Json)) (name : String) (value : Json) : List (String × Json) :=
  match members with
  | [] => [(name, value)]
  | m :: ms => if m.1 = name then (name, value) :: ms else m :: put ms name value

def lookup (members : List (String × Json)) (name : String) : Option Json :=
  (members.find? fun m => m.1 == name).map (·.2)

/-- The value of a name; a name that is absent has the value null. -/
def get (members : List (String × Json)) (name : String) : Json :=
  (lookup members name).getD .null

def object? : Json → Option (List (String × Json))
  | .object ms => some ms
  | _ => none

end Json

end RunSteward
