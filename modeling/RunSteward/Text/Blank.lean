import RunSteward.Text.CharClass

/-!
# Blank characters

White space in the Unicode sense, together with the four information separators. Trimming removes it at both ends of a
text, and `words` are the longest stretches without it.
-/

namespace RunSteward.Text

/-- The characters of white space, with the information separators U+001C to U+001F. -/
def blankClass : CharClass := ⟨[
  (0x9, 0xd), (0x1c, 0x20), (0x85, 0x85), (0xa0, 0xa0), (0x1680, 0x1680), (0x2000, 0x200a),
  (0x2028, 0x2029), (0x202f, 0x202f), (0x205f, 0x205f), (0x3000, 0x3000)]⟩

/-- Tells whether a character separates words. -/
def isBlank (c : Char) : Bool :=
  blankClass.has c

/-! ## Trimming -/

/-- A character list without its leading blanks. -/
def trimLeft (s : List Char) : List Char :=
  s.dropWhile isBlank

/-- A character list without its trailing blanks. -/
def trimRight (s : List Char) : List Char :=
  (s.reverse.dropWhile isBlank).reverse

/-- A character list without the blanks at its two ends. -/
def trimChars (s : List Char) : List Char :=
  trimRight (trimLeft s)

/-- A text without the blanks at its two ends. -/
def trim (s : String) : String :=
  String.ofList (trimChars s.toList)

/-! ## Words -/

/-- The longest stretches of characters that are not blank, in their order. -/
def words : List Char → List (List Char)
  | [] => []
  | c :: cs =>
    if isBlank c then words cs
    else match cs with
      | [] => [[c]]
      | d :: _ =>
        if isBlank d then [c] :: words cs
        else match words cs with
          | [] => [[c]]
          | w :: ws => (c :: w) :: ws

/-- The words of a text with one space between neighbours. -/
def collapse (s : List Char) : List Char :=
  [' '].intercalate (words s)

end RunSteward.Text
