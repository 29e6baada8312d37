/-!
# Lines and fields

A text is cut into lines at every kind of line break, or into fields at one given character. `fields` keeps empty
fields, so joining them with the separator gives the text back.
-/

namespace RunSteward.Text

/-- The characters that end a line; a carriage return with a line feed counts once. -/
def isLineBreak (c : Char) : Bool :=
  c ∈ ['\n', '\r', '\x0b', '\x0c', '\x1c', '\x1d', '\x1e', '\u0085', '\u2028', '\u2029']

/-- The lines of a text without their line breaks; a break at the end opens no further line. -/
def lines : List Char → List (List Char)
  | [] => []
  | '\r' :: '\n' :: cs => [] :: lines cs
  | c :: cs =>
    if isLineBreak c then [] :: lines cs
    else match lines cs with
      | [] => [[c]]
      | l :: ls => (c :: l) :: ls

/-- The stretches between the occurrences of a separator, empty ones included. -/
def fields (sep : Char) : List Char → List (List Char)
  | [] => [[]]
  | c :: cs =>
    if c = sep then [] :: fields sep cs
    else match fields sep cs with
      | [] => [[c]]
      | f :: fs => (c :: f) :: fs

/-- The parts before and after the first occurrence of a separator. -/
def cut? (sep : Char) : List Char → Option (List Char × List Char)
  | [] => none
  | c :: cs =>
    if c = sep then some ([], cs)
    else (cut? sep cs).map fun p => (c :: p.1, p.2)

/-- A text in which every carriage return with a line feed became a line feed. -/
def unifyLineEnds : List Char → List Char
  | [] => []
  | '\r' :: '\n' :: cs => '\n' :: unifyLineEnds cs
  | c :: cs => c :: unifyLineEnds cs

/-- A text in which every line feed is written as a backslash and the letter n. -/
def flattenLines : List Char → List Char
  | [] => []
  | c :: cs => if c = '\n' then '\\' :: 'n' :: flattenLines cs else c :: flattenLines cs

end RunSteward.Text
