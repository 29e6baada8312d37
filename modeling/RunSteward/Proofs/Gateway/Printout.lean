import Mathlib.Data.List.Induction
import Mathlib.Data.List.Nodup
import RunSteward.Gateway.Exchange
import RunSteward.Proofs.Text.Decimal
import RunSteward.Proofs.Text.Line

/-!
# Printed exchanges

What a command prints of its exchanges with the server is a row of blocks and a body (`ReplyBlock.text`). Reading the
print gives back the last block and the body (`read_printout`): the status of its status line, its headers, and the
body with all its empty lines. That holds whichever way each line ends, as long as no line of the body looks like a
status line, and unless the last status code has too many digits.
-/

namespace RunSteward

open Text (Decimal Inline LineEnd)

/-! ## Printing -/

/-- A header line. Neither colons nor slashes stand in its name, and it stays on one line. -/
structure HeaderLine where
  name : List Char
  value : List Char
  lineEnd : LineEnd
  name_plain : Inline name ∧ ':' ∉ name ∧ '/' ∉ name := by decide
  value_inline : Inline value := by decide

namespace HeaderLine

def line (h : HeaderLine) : List Char :=
  h.name ++ ':' :: ' ' :: h.value

def text (h : HeaderLine) : List Char :=
  h.line ++ h.lineEnd.text

/-- The name that a header goes by. -/
def key (h : HeaderLine) : String :=
  Text.lower (Text.trim (String.ofList h.name))

def content (h : HeaderLine) : String :=
  Text.trim (String.ofList h.value)

end HeaderLine

/-- The status line and the headers of one exchange, with the empty line behind them. -/
structure ReplyBlock where
  version : List Char
  code : Decimal
  reason : Option (List Char)
  statusEnd : LineEnd
  headers : List HeaderLine
  blankEnd : LineEnd
  version_plain : Inline version ∧ ' ' ∉ version := by decide
  reason_inline : ∀ r ∈ reason, Inline r := by decide

namespace ReplyBlock

def reasonPart (b : ReplyBlock) : List Char :=
  match b.reason with
  | none => []
  | some r => ' ' :: r

def statusLine (b : ReplyBlock) : List Char :=
  ['H', 'T', 'T', 'P', '/'] ++ b.version ++ ' ' :: (b.code.text ++ b.reasonPart)

def text (b : ReplyBlock) : List Char :=
  b.statusLine ++ b.statusEnd.text ++ (b.headers.flatMap HeaderLine.text ++ b.blankEnd.text)

def lines (b : ReplyBlock) : List (List Char) :=
  b.statusLine :: (b.headers.map HeaderLine.line ++ [[]])

/-- The value of a header: the last one of its name counts. -/
def header? (b : ReplyBlock) (name : String) : Option String :=
  (b.headers.reverse.find? fun h => h.key == name).map HeaderLine.content

end ReplyBlock

/-! ## The lines of a print -/

namespace HeaderLine

variable (h : HeaderLine)

theorem line_inline : Inline h.line := by
  obtain ⟨⟨hcr, hlf⟩, -, -⟩ := h.name_plain
  obtain ⟨hcr', hlf'⟩ := h.value_inline
  constructor <;> simp [line, hcr, hlf, hcr', hlf']

theorem line_ne_nil : h.line ≠ [] := by
  simp [line]

/-- A header line with what ends it. -/
def printed : Text.PrintedLine :=
  ⟨h.line, h.lineEnd, h.line_inline⟩

/-- A header line is no status line, for its name holds no slash. -/
theorem not_isStatusLine : Exchange.isStatusLine h.line = false := by
  obtain ⟨-, -, hslash⟩ := h.name_plain
  rw [Exchange.isStatusLine, Bool.eq_false_iff]
  intro hstart
  obtain ⟨rest, hrest⟩ := List.isPrefixOf_iff_prefix.mp hstart
  rcases List.append_eq_append_iff.mp hrest with ⟨t, hname, -⟩ | ⟨t, hname, hcolon⟩
  · exact hslash (by simp [hname])
  · cases t with
    | nil =>
      rw [List.append_nil] at hname
      exact hslash (by simp [← hname])
    | cons c t =>
      obtain rfl : ':' = c := (List.cons.inj hcolon).1
      have hmem : ':' ∈ "HTTP/".toList := by simp [hname]
      exact absurd hmem (by decide)

end HeaderLine

namespace ReplyBlock

variable (b : ReplyBlock)

theorem reasonPart_inline : Inline b.reasonPart := by
  rcases hreason : b.reason with _ | r
  · simp [reasonPart, hreason, Inline]
  · have hr := b.reason_inline r hreason
    simpa [reasonPart, hreason, Inline] using hr

theorem statusLine_inline : Inline b.statusLine := by
  obtain ⟨⟨hcr, hlf⟩, -⟩ := b.version_plain
  obtain ⟨hcr', hlf'⟩ := b.reasonPart_inline
  have hcode : Inline b.code.text :=
    ⟨fun hmem => (b.code.text_plain hmem).2 (by simp), fun hmem => (b.code.text_plain hmem).2 (by simp)⟩
  obtain ⟨hcr'', hlf''⟩ := hcode
  constructor <;> simp [statusLine, hcr, hlf, hcr', hlf', hcr'', hlf'']

theorem statusLine_isStatusLine : Exchange.isStatusLine b.statusLine = true := by
  rw [Exchange.isStatusLine, List.isPrefixOf_iff_prefix, statusLine, List.append_assoc]
  exact List.prefix_append _ _

theorem statusCode?_statusLine : Exchange.statusCode? b.statusLine = Text.integer? b.code.text := by
  have hversion : ' ' ∉ ['H', 'T', 'T', 'P', '/'] ++ b.version := by
    have hplain := b.version_plain.2
    simp [hplain]
  have hcode : ' ' ∉ b.code.text := fun hmem => (b.code.text_plain hmem).2 (by simp)
  have hsecond : ∃ rest, Text.fields ' ' (b.code.text ++ b.reasonPart) = b.code.text :: rest := by
    rcases hreason : b.reason with _ | r
    · refine ⟨[], ?_⟩
      simp [reasonPart, hreason, Text.fields_of_not_mem hcode]
    · refine ⟨Text.fields ' ' r, ?_⟩
      simp [reasonPart, hreason, Text.fields_append hcode]
  obtain ⟨rest, hrest⟩ := hsecond
  rw [Exchange.statusCode?, statusLine, Text.fields_append hversion, hrest]

theorem fields_headers (hs : List HeaderLine) (s : List Char) :
    Text.fields '\n' (Text.unifyLineEnds (hs.flatMap HeaderLine.text ++ s)) =
      hs.map HeaderLine.line ++ Text.fields '\n' (Text.unifyLineEnds s) := by
  have hprinted := Text.fields_printed (hs.map HeaderLine.printed) s
  rwa [List.flatMap_map, List.map_map] at hprinted

theorem fields_text (s : List Char) :
    Text.fields '\n' (Text.unifyLineEnds (b.text ++ s)) =
      b.lines ++ Text.fields '\n' (Text.unifyLineEnds s) := by
  have hblank : Text.fields '\n' (Text.unifyLineEnds ([] ++ b.blankEnd.text ++ s)) =
      [] :: Text.fields '\n' (Text.unifyLineEnds s) :=
    Text.fields_line (by simp [Inline]) _ _
  rw [List.nil_append] at hblank
  rw [text, List.append_assoc, Text.fields_line b.statusLine_inline, List.append_assoc, fields_headers, hblank]
  simp [lines]

theorem fields_blocks (bs : List ReplyBlock) (s : List Char) :
    Text.fields '\n' (Text.unifyLineEnds (bs.flatMap text ++ s)) =
      bs.flatMap lines ++ Text.fields '\n' (Text.unifyLineEnds s) := by
  induction bs with
  | nil => rfl
  | cons b bs ih => rw [List.flatMap_cons, List.append_assoc, fields_text, ih, List.flatMap_cons, List.append_assoc]

end ReplyBlock

/-! ## The last block -/

namespace Exchange

theorem lastBlock?_of_none {ls : List (List Char)} (h : ∀ l ∈ ls, isStatusLine l = false) :
    lastBlock? ls = none := by
  induction ls with
  | nil => rfl
  | cons l ls ih =>
    have hl := h l (by simp)
    rw [lastBlock?, ih fun l' hl' => h l' (by simp [hl'])]
    simp [hl]

/-- The last status line is the one after which no other one comes, whatever stands before it. -/
theorem lastBlock?_append (before : List (List Char)) {l : List Char} {ls : List (List Char)}
    (hl : isStatusLine l = true) (hls : ∀ l' ∈ ls, isStatusLine l' = false) :
    lastBlock? (before ++ l :: ls) = some (l, ls) := by
  induction before with
  | nil =>
    rw [List.nil_append, lastBlock?, lastBlock?_of_none hls]
    simp [hl]
  | cons l' before ih => rw [List.cons_append, lastBlock?, ih]

end Exchange

/-! ## Headers -/

namespace Headers

variable {hs : Headers} {name value : String}

theorem value?_put (other : String) :
    (hs.put name value).value? other = if name = other then some value else hs.value? other := by
  induction hs with
  | nil =>
    by_cases h : name = other
    · simp [put, value?, h]
    · have hother : (other == name) = false := by simp [Ne.symm h]
      simp [put, value?, List.lookup_cons, hother, h]
  | cons e hs ih =>
    obtain ⟨known, content⟩ := e
    simp only [value?] at ih ⊢
    rw [put]
    by_cases hknown : known = name
    · subst hknown
      by_cases h : known = other
      · simp [h]
      · have hother : (other == known) = false := by simp [Ne.symm h]
        simp [List.lookup_cons, hother, h]
    · rw [if_neg hknown, List.lookup_cons, List.lookup_cons]
      by_cases hother : other = known
      · subst hother
        simp [Ne.symm hknown]
      · have hfalse : (other == known) = false := by simp [hother]
        rw [hfalse]
        exact ih

theorem names_put : (hs.put name value).map Prod.fst =
    if name ∈ hs.map Prod.fst then hs.map Prod.fst else hs.map Prod.fst ++ [name] := by
  induction hs with
  | nil => rfl
  | cons e hs ih =>
    rw [put]
    by_cases he : e.1 = name
    · simp [he]
    · rw [if_neg he, List.map_cons, ih]
      have hname : name ≠ e.1 := Ne.symm he
      by_cases hmem : name ∈ hs.map Prod.fst
      · simp only [List.map_cons, List.mem_cons, hmem, or_true, if_true]
      · simp only [List.map_cons, List.mem_cons, hmem, hname, or_false, if_false, List.cons_append]

theorem nodup_put (h : (hs.map Prod.fst).Nodup) : ((hs.put name value).map Prod.fst).Nodup := by
  rw [names_put]
  by_cases hmem : name ∈ hs.map Prod.fst
  · rw [if_pos hmem]
    exact h
  · rw [if_neg hmem]
    rw [← List.concat_eq_append]
    exact h.concat hmem

theorem addLine_line (hs : Headers) (h : HeaderLine) : hs.addLine h.line = hs.put h.key h.content := by
  have hcolon := h.name_plain.2.1
  have htrim : Text.trim (String.ofList (' ' :: h.value)) = h.content := by
    have hblank : Text.isBlank ' ' = true := by decide
    simp [HeaderLine.content, Text.trim, Text.trimChars, Text.trimLeft, hblank]
  rw [addLine, HeaderLine.line, Text.cut?_append hcolon]
  simp only [htrim]
  rfl

theorem ofLines_concat (ls : List (List Char)) (l : List Char) : ofLines (ls ++ [l]) = (ofLines ls).addLine l := by
  simp [ofLines]

/-- Header lines by induction from the last one, which counts most. -/
theorem ofLines_headers (lines : List HeaderLine) :
    (∀ name, (ofLines (lines.map HeaderLine.line)).value? name =
      (lines.reverse.find? fun h => h.key == name).map HeaderLine.content) ∧
    ((ofLines (lines.map HeaderLine.line)).map Prod.fst).Nodup := by
  induction lines using List.reverseRecOn with
  | nil => exact ⟨fun _ => rfl, List.nodup_nil⟩
  | append_singleton lines h ih =>
    obtain ⟨hvalues, hnodup⟩ := ih
    rw [List.map_append, List.map_singleton, ofLines_concat, addLine_line]
    refine ⟨fun name => ?_, nodup_put hnodup⟩
    rw [value?_put, hvalues, List.reverse_append, List.reverse_singleton, List.singleton_append, List.find?_cons]
    by_cases hname : h.key = name
    · simp [hname]
    · have hfalse : (h.key == name) = false := by simp [hname]
      rw [if_neg hname, hfalse]

end Headers

/-! ## Reading the print -/

namespace Exchange

/-- What is read of a print depends on whether the last status code can be read. -/
theorem read_eq (earlier : List ReplyBlock) (last : ReplyBlock) {body : List Char}
    (hbody : ∀ line ∈ Text.fields '\n' (Text.unifyLineEnds body), ¬"HTTP/".toList <+: line) :
    read (String.ofList (earlier.flatMap ReplyBlock.text ++ (last.text ++ body))) =
      match Text.integer? last.code.text with
      | none => .error (unreadable (" status line: " ++ Text.quoted (String.ofList last.statusLine)))
      | some status => .ok ⟨status, Headers.ofLines (last.headers.map HeaderLine.line),
          String.ofList (Text.unifyLineEnds body)⟩ := by
  let rest := last.headers.map HeaderLine.line ++ [] :: Text.fields '\n' (Text.unifyLineEnds body)
  have hlines : Text.fields '\n' (Text.unifyLineEnds (earlier.flatMap ReplyBlock.text ++ (last.text ++ body))) =
      earlier.flatMap ReplyBlock.lines ++ last.statusLine :: rest := by
    rw [ReplyBlock.fields_blocks, ReplyBlock.fields_text]
    simp [ReplyBlock.lines, rest]
  have hrest : ∀ l ∈ rest, isStatusLine l = false := by
    intro l hl
    rcases List.mem_append.mp hl with hheader | hl
    · obtain ⟨h, -, rfl⟩ := List.mem_map.mp hheader
      exact h.not_isStatusLine
    · rcases List.mem_cons.mp hl with rfl | hl
      · rfl
      · rw [isStatusLine, Bool.eq_false_iff]
        exact fun hstart => hbody l hl (List.isPrefixOf_iff_prefix.mp hstart)
  have hfilled : ∀ l ∈ last.headers.map HeaderLine.line, (!l.isEmpty) = true := by
    intro l hl
    obtain ⟨h, -, rfl⟩ := List.mem_map.mp hl
    simpa using h.line_ne_nil
  -- the headers end at the first empty line, and the body begins behind it
  have hhead : (rest.takeWhile fun l => !l.isEmpty) = last.headers.map HeaderLine.line := by
    rw [List.takeWhile_append_of_pos hfilled]
    simp
  have htail : (rest.dropWhile fun l => !l.isEmpty).drop 1 = Text.fields '\n' (Text.unifyLineEnds body) := by
    rw [List.dropWhile_append_of_pos hfilled]
    simp
  rw [read, String.toList_ofList, hlines, lastBlock?_append _ last.statusLine_isStatusLine hrest]
  rcases hcode : Text.integer? last.code.text with _ | status
  · simp only [last.statusCode?_statusLine, hcode]
  · simp only [last.statusCode?_statusLine, hcode, hhead, htail, Text.intercalate_fields]

/-- **Reading undoes printing**: of a row of exchanges and a body the last status, exactly the last headers and the
body are read, the line ends of the body unified. If the last status code has too many digits, the print is refused over
its status line. -/
theorem read_printout (earlier : List ReplyBlock) (last : ReplyBlock) (body : List Char)
    (hbody : ∀ line ∈ Text.fields '\n' (Text.unifyLineEnds body), ¬"HTTP/".toList <+: line) :
    (last.code.digits.length ≤ Text.digitLimit →
      ∃ x, read (String.ofList (earlier.flatMap ReplyBlock.text ++ (last.text ++ body))) = .ok x ∧
        x.status = last.code.value ∧
        (∀ name, x.headers.value? name = last.header? name) ∧ (x.headers.map Prod.fst).Nodup ∧
        x.body = String.ofList (Text.unifyLineEnds body)) ∧
    (Text.digitLimit < last.code.digits.length →
      read (String.ofList (earlier.flatMap ReplyBlock.text ++ (last.text ++ body))) =
        .error (unreadable (" status line: " ++ Text.quoted (String.ofList last.statusLine)))) := by
  obtain ⟨hvalues, hnodup⟩ := Headers.ofLines_headers last.headers
  rw [read_eq earlier last hbody]
  constructor
  · intro hshort
    rw [last.code.integer?_text hshort]
    exact ⟨_, rfl, rfl, hvalues, hnodup, rfl⟩
  · intro hlong
    rw [last.code.integer?_overlong hlong]

def redirection : ReplyBlock where
  version := ['1', '.', '1']
  code := { digits := [3, 0, 2] }
  reason := some ['F', 'o', 'u', 'n', 'd']
  statusEnd := .crlf
  headers := [{ name := ['L', 'i', 'n', 'k'], value := ['<', 'a', ':', 'b', '>'], lineEnd := .crlf }]
  blankEnd := .crlf

/-- The block of a success without a reason, in which a header is given twice. -/
def arrival : ReplyBlock where
  version := ['2']
  code := { digits := [2, 0, 0] }
  reason := none
  statusEnd := .lf
  headers := [{ name := ['E', 'T', 'a', 'g'], value := ['"', 'a', '"'], lineEnd := .crlf },
    { name := ['e', 't', 'a', 'g'], value := [' ', 'W', '/', '"', 'b', ':', 'c', '"', '\t'], lineEnd := .lf }]
  blankEnd := .crlf

/-- A print of both, with line ends of both kinds, and with empty lines in the body. -/
theorem read_printout_redirected :
    (∀ line ∈ Text.fields '\n' (Text.unifyLineEnds "[1]\r\n\n\r\n".toList), ¬"HTTP/".toList <+: line) ∧
      ∃ x, read ("HTTP/1.1 302 Found\r\nLink: <a:b>\r\n\r\n" ++
          "HTTP/2 200\nETag: \"a\"\r\netag:  W/\"b:c\"\t\n\r\n[1]\r\n\n\r\n") = .ok x ∧
        x.status = 200 ∧ x.headers.value? "etag" = some "W/\"b:c\"" ∧ x.headers.value? "link" = none ∧
        x.body = "[1]\n\n\n" := by
  have hbody : ∀ line ∈ Text.fields '\n' (Text.unifyLineEnds "[1]\r\n\n\r\n".toList), ¬"HTTP/".toList <+: line := by
    decide
  obtain ⟨hshort, -⟩ := read_printout [redirection] arrival "[1]\r\n\n\r\n".toList hbody
  obtain ⟨x, hread, hstatus, hvalues, -, hrest⟩ := hshort (by decide)
  have htag : arrival.header? "etag" = some "W/\"b:c\"" := by decide +kernel
  have hlink : arrival.header? "link" = none := by decide +kernel
  refine ⟨hbody, x, hread, hstatus, (hvalues _).trans htag, (hvalues _).trans hlink, hrest⟩

/-- A reply of a status code and nothing else. -/
def bareReply (code : Decimal) : ReplyBlock where
  version := ['2', '.', '0']
  code := code
  reason := none
  statusEnd := .lf
  headers := []
  blankEnd := .lf

def createdCode : Decimal where
  digits := [2, 0, 1]

def notFoundCode : Decimal where
  digits := [4, 0, 4]

/-- The code of a success behind a number of zeros. -/
def paddedCode (zeros : Nat) : Decimal where
  digits := List.replicate zeros 0 ++ [2, 0, 0]
  digits_ne_nil := by simp

theorem paddedCode_value (zeros : Nat) : (paddedCode zeros).value = 200 := by
  simp [Decimal.value, Decimal.magnitude, paddedCode, Nat.ofDigits_cons, Nat.ofDigits_replicate_zero]

/-- A success whose code has one digit too many. -/
def paddedArrival : ReplyBlock :=
  bareReply (paddedCode 4298)

/-- A printed success that is refused over its status line. -/
theorem padded_code_refused :
    (∀ line ∈ Text.fields '\n' (Text.unifyLineEnds []), ¬"HTTP/".toList <+: line) ∧
      paddedArrival.code.value = 200 ∧
      read (String.ofList ([].flatMap ReplyBlock.text ++ (paddedArrival.text ++ []))) =
        .error (unreadable (" status line: " ++ Text.quoted (String.ofList paddedArrival.statusLine))) := by
  have hbody : ∀ line ∈ Text.fields '\n' (Text.unifyLineEnds []), ¬"HTTP/".toList <+: line := by decide
  have hlength : (paddedCode 4298).digits.length = 4301 := by
    rw [paddedCode, List.length_append, List.length_replicate]
    rfl
  have hlong : Text.digitLimit < paddedArrival.code.digits.length := by
    rw [paddedArrival, bareReply, hlength]
    decide
  refine ⟨hbody, paddedCode_value 4298, ?_⟩
  rw [read_eq [] paddedArrival hbody, paddedArrival.code.integer?_overlong hlong]

end Exchange

end RunSteward
