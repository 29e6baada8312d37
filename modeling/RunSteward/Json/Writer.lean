import RunSteward.Json.Basic
import RunSteward.Text.Quoted

/-!
# Writing JSON

A value is written in ASCII with a space behind each comma and each colon, or over several lines with an indent of two
spaces a level.
-/

namespace RunSteward.Json

/-! ## Strings -/

/-- A UTF-16 unit as an escape. -/
def unitEscape (u : Nat) : List Char :=
  '\\' :: 'u' :: Text.hexDigits 4 u

/-- One character between double quotes. -/
def escapeChar (c : Char) : List Char :=
  match c with
  | '"' => ['\\', '"']
  | '\\' => ['\\', '\\']
  | '\n' => ['\\', 'n']
  | '\r' => ['\\', 'r']
  | '\t' => ['\\', 't']
  | '\x0c' => ['\\', 'f']
  | '\x08' => ['\\', 'b']
  | c =>
    let n := c.toNat
    if 0x20 ≤ n ∧ n ≤ 0x7e then [c]
    else if n < 0x10000 then unitEscape n
    else unitEscape (0xD800 + (n - 0x10000) / 0x400) ++ unitEscape (0xDC00 + (n - 0x10000) % 0x400)

/-- A text between double quotes, in ASCII. -/
def stringLiteral (s : String) : String :=
  String.ofList ('"' :: (s.toList.flatMap escapeChar ++ ['"']))

/-- A number; the numbers outside the standard have their own words. -/
def numberLiteral : Number → String
  | .whole n => toString n
  | .real .nan => "NaN"
  | .real (.infinite negative) => if negative then "-Infinity" else "Infinity"
  | .real x => x.text

/-! ## Values -/

mutual

/-- A value on one line. -/
def write : Json → String
  | .null => "null"
  | .bool b => if b then "true" else "false"
  | .number n => numberLiteral n
  | .string s => stringLiteral s
  | .array items => "[" ++ ", ".intercalate (writeItems items) ++ "]"
  | .object members => "\x7b" ++ ", ".intercalate (writeMembers members) ++ "\x7d"

/-- The items of an array, each on one line. -/
def writeItems : List Json → List String
  | [] => []
  | v :: vs => write v :: writeItems vs

/-- The members of an object, each on one line. -/
def writeMembers : List (String × Json) → List String
  | [] => []
  | (name, v) :: ms => (stringLiteral name ++ ": " ++ write v) :: writeMembers ms

end

/-- A line break and the indent of a level. -/
def newline (level : Nat) : String :=
  String.ofList ('\n' :: List.replicate (2 * level) ' ')

/-- Parts between brackets, each on a line of its own. -/
def block (opening closing : String) (level : Nat) (parts : List String) : String :=
  if parts.isEmpty then opening ++ closing
  else
    opening ++ newline (level + 1) ++ ("," ++ newline (level + 1)).intercalate parts
      ++ newline level ++ closing

mutual

/-- A value over several lines, its first line standing at the given level. -/
def writeBlock (level : Nat) : Json → String
  | .array items => block "[" "]" level (writeBlockItems (level + 1) items)
  | .object members => block "\x7b" "\x7d" level (writeBlockMembers (level + 1) members)
  | v => write v

/-- The items of an array over several lines. -/
def writeBlockItems (level : Nat) : List Json → List String
  | [] => []
  | v :: vs => writeBlock level v :: writeBlockItems level vs

/-- The members of an object over several lines. -/
def writeBlockMembers (level : Nat) : List (String × Json) → List String
  | [] => []
  | (name, v) :: ms => (stringLiteral name ++ ": " ++ writeBlock level v) :: writeBlockMembers level ms

end

end RunSteward.Json
