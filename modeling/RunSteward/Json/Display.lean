import RunSteward.Json.Basic
import RunSteward.Text.Quoted

/-!
# Values as plain text

Where a reply holds some other value in place of a text, the value is shown: a text as it is, a text inside a list or an
object in quotes, and the words `None`, `True` and `False`.
-/

namespace RunSteward.Json

mutual

/-- A value inside a list or an object. -/
def display : Json → String
  | .null => "None"
  | .bool b => if b then "True" else "False"
  | .number n => n.text
  | .string s => Text.quoted s
  | .array items => "[" ++ ", ".intercalate (displayItems items) ++ "]"
  | .object members => "\x7b" ++ ", ".intercalate (displayMembers members) ++ "\x7d"

/-- The items of a list. -/
def displayItems : List Json → List String
  | [] => []
  | v :: vs => display v :: displayItems vs

def displayMembers : List (String × Json) → List String
  | [] => []
  | (name, v) :: ms => (Text.quoted name ++ ": " ++ display v) :: displayMembers ms

end

/-- A value as a text of its own. -/
def plainText : Json → String
  | .string s => s
  | v => display v

end RunSteward.Json
