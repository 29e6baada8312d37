import RunSteward.Text.Blank
import RunSteward.Text.Line

/-!
# Excerpts

Long texts are shown by their beginning and three dots. A limit below zero counts from the end of the text, as in every
cut of this library.
-/

namespace RunSteward.Text

/-- The first characters of a text; a negative count says how many to leave out at the end. -/
def upTo (count : Int) (s : List Char) : List Char :=
  match count with
  | .ofNat n => s.take n
  | .negSucc n => s.take (s.length - (n + 1))

/-- The mark that stands for an empty text. -/
def emptyMark : String := "<empty>"

/-- A text as it is when it keeps to the limit, and otherwise its beginning with three dots. -/
def abridge (limit : Int) (s : List Char) : List Char :=
  if (s.length : Int) ≤ limit then s else upTo limit s ++ "...".toList

/-- Shows a flat text within a limit. -/
def showFlat (limit : Int) (flat : List Char) : String :=
  if flat.isEmpty then emptyMark else String.ofList (abridge limit flat)

/-- A reply on one line: line feeds are spelled out first and the ends are trimmed afterwards. -/
def previewReply (text : String) (limit : Int) : String :=
  showFlat limit (trimChars (flattenLines text.toList))

/-- The output of a command on one line: the ends are trimmed first and line feeds are spelled out afterwards. -/
def previewOutput (text : String) (limit : Int) : String :=
  showFlat limit (flattenLines (trimChars text.toList))

/-- A table cell of at most the given width; a longer text gives up three characters to the dots. -/
def truncateCell (text : String) (width : Int) : String :=
  let s := text.toList
  if (s.length : Int) ≤ width then text
  else String.ofList (upTo (width - 3) s ++ "...".toList)

/-- A text on one line for the log: words with single spaces, at most 120 characters of them. -/
def squash (s : List Char) : List Char :=
  let flat := collapse s
  if flat.isEmpty then emptyMark.toList else abridge 120 flat

end RunSteward.Text
