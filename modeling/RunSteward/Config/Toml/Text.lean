import RunSteward.Json.Reader

/-!
# Texts in TOML

A text stands between double quotes, with escapes, or between apostrophes, without. Three quotes in a row open a text
over several lines; up to two more quotes before its end belong to it. Control characters are refused.
-/

namespace RunSteward.Toml

/-- The white space within a line. -/
def isGap (c : Char) : Bool :=
  c = ' ' || c = '\t'

def skipGap (s : List Char) : List Char :=
  s.dropWhile isGap

def isGapOrLine (c : Char) : Bool :=
  isGap c || c = '\n'

/-- Control characters that no text and no comment may hold; a tab is allowed. -/
def isControl (c : Char) : Bool :=
  (c.toNat < 0x20 && c != '\t') || c.toNat = 0x7f

/-- Characters that a text must not hold; several lines are allowed only where said. -/
def isIllegal (multiline : Bool) (c : Char) : Bool :=
  isControl c && !(multiline && c = '\n')

/-! ## Texts without escapes -/

/-- The characters up to a closing mark, and the text behind the mark. -/
def untilMark? (mark : List Char) (multiline : Bool) : List Char → Option (List Char × List Char)
  | [] => none
  | c :: cs =>
    match mark.isPrefixOf? (c :: cs) with
    | some rest => some ([], rest)
    | none =>
      if isIllegal multiline c then none
      else (untilMark? mark multiline cs).map fun p => (c :: p.1, p.2)

/-! ## Texts with escapes -/

def hexChar? (count : Nat) (s : List Char) : Option (Char × List Char) := do
  let ds := s.take count
  if ds.length ≠ count then none
  let values ← ds.mapM Json.hexValue?
  let n := values.foldl (fun n d => 16 * n + d) 0
  if n < 0xD800 ∨ (0xE000 ≤ n ∧ n < 0x110000) then return (Char.ofNat n, s.drop count) else none

/-- The character that a one-letter escape stands for. -/
def escaped? (c : Char) : Option Char :=
  match c with
  | 'b' => some '\x08'
  | 't' => some '\t'
  | 'n' => some '\n'
  | 'f' => some '\x0c'
  | 'r' => some '\r'
  | '"' => some '"'
  | '\\' => some '\\'
  | _ => none

/-- What a backslash stands for, and the text behind the escape. At the end of a line it takes away the line break and
the blanks that follow. -/
def readEscape? (multiline : Bool) : List Char → Option (List Char × List Char)
  | [] => none
  | c :: cs =>
    if multiline ∧ c = '\n' then some ([], cs.dropWhile isGapOrLine)
    else if multiline ∧ isGap c then
      match skipGap cs with
      | [] => some ([], [])
      | '\n' :: rest => some ([], rest.dropWhile isGapOrLine)
      | _ => none
    else if c = 'u' then (hexChar? 4 cs).map fun p => ([p.1], p.2)
    else if c = 'U' then (hexChar? 8 cs).map fun p => ([p.1], p.2)
    else (escaped? c).map fun e => ([e], cs)

/-- The characters up to the closing quotes, and the text behind them. -/
def readBasic? (multiline : Bool) : Nat → List Char → Option (List Char × List Char)
  | 0, _ => none
  | fuel + 1, s =>
    match s with
    | [] => none
    | '"' :: cs =>
      if !multiline then some ([], cs)
      else match cs with
        | '"' :: '"' :: rest => some ([], rest)
        | _ => (readBasic? multiline fuel cs).map fun p => ('"' :: p.1, p.2)
    | '\\' :: cs => do
      let (piece, rest) ← readEscape? multiline cs
      let (body, rest) ← readBasic? multiline fuel rest
      return (piece ++ body, rest)
    | c :: cs =>
      if isIllegal multiline c then none
      else (readBasic? multiline fuel cs).map fun p => (c :: p.1, p.2)

/-! ## All texts -/

/-- A body with up to two quotes that stand behind its closing mark. -/
def absorbQuotes (quote : Char) (body rest : List Char) : List Char × List Char :=
  match rest with
  | c :: d :: cs =>
    if c = quote then
      if d = quote then (body ++ [quote, quote], cs) else (body ++ [quote], d :: cs)
    else (body, rest)
  | [c] => if c = quote then (body ++ [quote], []) else (body, rest)
  | [] => (body, [])

/-- A text without its first line feed. -/
def dropFirstLine : List Char → List Char
  | '\n' :: cs => cs
  | cs => cs

/-- The text on one line that starts here, its quotes included. -/
def readLineText? : List Char → Option (List Char × List Char)
  | '"' :: cs => readBasic? false (cs.length + 1) cs
  | '\'' :: cs => untilMark? ['\''] false cs
  | _ => none

/-- The text that starts here, its quotes included. -/
def readText? (s : List Char) : Option (List Char × List Char) :=
  match s with
  | '"' :: '"' :: '"' :: cs =>
    let cs := dropFirstLine cs
    (readBasic? true (cs.length + 1) cs).map fun p => absorbQuotes '"' p.1 p.2
  | '\'' :: '\'' :: '\'' :: cs =>
    (untilMark? "'''".toList true (dropFirstLine cs)).map fun p => absorbQuotes '\'' p.1 p.2
  | _ => readLineText? s

end RunSteward.Toml
