import RunSteward.Text.Line
import RunSteward.Version.Grammar

/-!
# Build manifests

A manifest assigns values to keys, one assignment a line; the first equals sign or colon ends the key. Blank lines and
lines that start with `#` or `!` are comments. The first assignment of a key decides.
-/

namespace RunSteward.Manifest

/-- The key and the value of an assignment. -/
def splitAssignment? : List Char → Option (List Char × List Char)
  | [] => none
  | c :: cs =>
    if c = '=' ∨ c = ':' then some ([], cs)
    else (splitAssignment? cs).map fun p => (c :: p.1, p.2)

/-- The key and the value that a line assigns, if it is no comment. -/
def assignment? (line : List Char) : Option (List Char × List Char) :=
  match Text.trimChars line with
  | [] => none
  | c :: cs =>
    if c = '#' ∨ c = '!' then none
    else (splitAssignment? (c :: cs)).map fun p => (Text.trimChars p.1, p.2)

/-- The value of a key. -/
def value? (text key : String) : Option (List Char) :=
  (((Text.lines text.toList).filterMap assignment?).find? fun p => p.1 == key.toList).map (·.2)

/-- The version that a manifest assigns to a key. -/
def version (text key : String) : Except Fault (Option Version) :=
  match value? text key with
  | none => .ok none
  | some v => Version.read (String.ofList v)

end RunSteward.Manifest
