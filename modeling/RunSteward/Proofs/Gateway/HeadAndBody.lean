import RunSteward.Proofs.Gateway.Printout

/-!
# What the body of a reply can do to its head

The head of a reply is a status line, header lines of any form and an empty line. Behind a row of heads the body may be
any text, and it makes all the difference whether one of its lines looks like a status line (`HoldsStatusLine`). If
none does, the body is without influence on what is read of the heads; if one does, the heads are without influence on
what is read, which is what would be read of the body alone (`read_behind_heads`). So a body can change the status or
give headers of its own (`read_forged`), but only by such a line.

All of this is about the last status line in a row of lines: lines without a status line leave it where it is
(`lastBlock?_append_of_none`), and a status line further down replaces it (`lastBlock?_append_of_some`).
-/

namespace RunSteward

open Text (LineEnd PrintedLine)

namespace Exchange

/-! ## The last status line -/

theorem lastBlock?_append_of_some (before : List (List Char)) {ls : List (List Char)}
    {block : List Char × List (List Char)} (h : lastBlock? ls = some block) :
    lastBlock? (before ++ ls) = some block := by
  induction before with
  | nil => exact h
  | cons l before ih => rw [List.cons_append, lastBlock?, ih]

theorem lastBlock?_append_of_none (ls : List (List Char)) {behind : List (List Char)}
    (h : ∀ l ∈ behind, isStatusLine l = false) :
    lastBlock? (ls ++ behind) = (lastBlock? ls).map fun block => (block.1, block.2 ++ behind) := by
  induction ls with
  | nil => exact lastBlock?_of_none h
  | cons l ls ih =>
    rw [List.cons_append, lastBlock?, lastBlock?, ih]
    cases lastBlock? ls with
    | some block => rfl
    | none =>
      cases hl : isStatusLine l with
      | true => simp
      | false => simp

theorem lastBlock?_isSome {ls : List (List Char)} (h : ∃ l ∈ ls, isStatusLine l = true) :
    ∃ block, lastBlock? ls = some block := by
  induction ls with
  | nil => exact absurd h (by simp)
  | cons l ls ih =>
    cases hrest : lastBlock? ls with
    | some block => exact ⟨block, by rw [lastBlock?, hrest]⟩
    | none =>
      have hl : isStatusLine l = true := by
        obtain ⟨l', hmem, hl'⟩ := h
        rcases List.mem_cons.mp hmem with rfl | hmem
        · exact hl'
        · obtain ⟨block, hblock⟩ := ih ⟨l', hmem, hl'⟩
          simp [hrest] at hblock
      refine ⟨(l, ls), ?_⟩
      rw [lastBlock?, hrest]
      simp [hl]

/-- Behind a status line and lines that are not empty, an empty line ends what belongs to the last status line. -/
theorem lastBlock?_ended {status : List Char} (hstatus : isStatusLine status = true) (lines : List (List Char)) :
    ∃ line headers, lastBlock? (status :: (lines ++ [[]])) = some (line, headers ++ [[]]) ∧
      ∀ h ∈ headers, h ∈ lines := by
  induction lines generalizing status with
  | nil =>
    refine ⟨status, [], ?_, fun _ hmem => hmem⟩
    have hblank : isStatusLine [] = false := rfl
    simp [lastBlock?, hblank, hstatus]
  | cons l lines ih =>
    cases hl : isStatusLine l with
    | true =>
      obtain ⟨line, headers, hblock, hsub⟩ := ih hl
      refine ⟨line, headers, ?_, fun h hmem => List.mem_cons_of_mem l (hsub h hmem)⟩
      rw [List.cons_append, lastBlock?, hblock]
    | false =>
      cases hrest : lastBlock? (lines ++ [[]]) with
      | some block =>
        obtain ⟨line, headers, hblock, hsub⟩ := ih hstatus
        rw [lastBlock?, hrest] at hblock
        refine ⟨line, headers, ?_, fun h hmem => List.mem_cons_of_mem l (hsub h hmem)⟩
        rw [List.cons_append, lastBlock?, lastBlock?, hrest]
        exact hblock
      | none =>
        refine ⟨status, l :: lines, ?_, fun _ hmem => hmem⟩
        rw [List.cons_append, lastBlock?, lastBlock?, hrest]
        simp [hl, hstatus]

end Exchange

/-! ## Heads -/

/-- The head of a reply: a status line, lines that are not empty, and an empty line. Nothing else is asked of the lines;
they need not be readable. -/
structure ReplyHead where
  status : PrintedLine
  headers : List PrintedLine
  blankEnd : LineEnd
  isStatusLine_status : Exchange.isStatusLine status.content = true := by decide
  headers_ne_nil : ∀ h ∈ headers, h.content ≠ [] := by decide

namespace ReplyHead

def lines (h : ReplyHead) : List PrintedLine :=
  h.status :: (h.headers ++ [{ content := [], lineEnd := h.blankEnd }])

def text (h : ReplyHead) : List Char :=
  h.lines.flatMap PrintedLine.text

theorem fields_heads (heads : List ReplyHead) (body : List Char) :
    Text.fields '\n' (Text.unifyLineEnds (heads.flatMap text ++ body)) =
      (heads.flatMap lines).map PrintedLine.content ++ Text.fields '\n' (Text.unifyLineEnds body) := by
  have htext : heads.flatMap text = (heads.flatMap lines).flatMap PrintedLine.text := by
    rw [List.flatMap_assoc]
    rfl
  rw [htext, Text.fields_printed]

theorem lastBlock?_heads (earlier : List ReplyHead) (last : ReplyHead) :
    ∃ line headers, (∀ h ∈ headers, h ≠ []) ∧
      Exchange.lastBlock? (((earlier ++ [last]).flatMap lines).map PrintedLine.content) =
        some (line, headers ++ [[]]) := by
  obtain ⟨line, headers, hblock, hsub⟩ :=
    Exchange.lastBlock?_ended last.isStatusLine_status (last.headers.map PrintedLine.content)
  refine ⟨line, headers, fun h hmem => ?_, ?_⟩
  · obtain ⟨l, hl, rfl⟩ := List.mem_map.mp (hsub h hmem)
    exact last.headers_ne_nil l hl
  · rw [List.flatMap_append, List.map_append]
    refine Exchange.lastBlock?_append_of_some _ ?_
    simpa [lines] using hblock

end ReplyHead

namespace Exchange

/-! ## Bodies -/

/-- Tells whether a line of a body looks like a status line. -/
def HoldsStatusLine (body : List Char) : Prop :=
  ∃ l ∈ Text.fields '\n' (Text.unifyLineEnds body), isStatusLine l = true

instance (body : List Char) : Decidable (HoldsStatusLine body) :=
  List.decidableBEx _ _

/-- What is read of a row of heads with a body, if no line of the body looks like a status line: the status line and
the headers are the same for all these bodies. -/
theorem read_plain (earlier : List ReplyHead) (last : ReplyHead) :
    ∃ head : Except HostError Exchange, ∀ body : List Char, ¬HoldsStatusLine body →
      read (String.ofList ((earlier ++ [last]).flatMap ReplyHead.text ++ body)) =
        head.map fun x => { x with body := String.ofList (Text.unifyLineEnds body) } := by
  obtain ⟨line, headers, hfilled, hblock⟩ := ReplyHead.lastBlock?_heads earlier last
  refine ⟨(statusCode? line).elim (.error (unreadable (" status line: " ++ Text.quoted (String.ofList line))))
    fun status => .ok ⟨status, Headers.ofLines headers, ""⟩, fun body hbody => ?_⟩
  have hplain : ∀ l ∈ Text.fields '\n' (Text.unifyLineEnds body), isStatusLine l = false :=
    fun l hl => Bool.eq_false_iff.mpr fun hstatus => hbody ⟨l, hl, hstatus⟩
  have hnonempty : ∀ h ∈ headers, (!h.isEmpty) = true := fun h hmem => by simpa using hfilled h hmem
  have hhead : ((headers ++ [[]] ++ Text.fields '\n' (Text.unifyLineEnds body)).takeWhile fun l => !l.isEmpty) =
      headers := by
    rw [List.append_assoc, List.takeWhile_append_of_pos hnonempty]
    simp
  have hrest : ((headers ++ [[]] ++ Text.fields '\n' (Text.unifyLineEnds body)).dropWhile
      fun l : List Char => !l.isEmpty).drop 1 = Text.fields '\n' (Text.unifyLineEnds body) := by
    rw [List.append_assoc, List.dropWhile_append_of_pos hnonempty]
    simp
  rw [read, String.toList_ofList, ReplyHead.fields_heads, lastBlock?_append_of_none _ hplain, hblock]
  simp only [Option.map_some, hhead, hrest, Text.intercalate_fields]
  cases statusCode? line with
  | none => rfl
  | some status => rfl

/-- **Either the body or the heads are without influence.** Behind a row of heads, all bodies of which no line looks
like a status line are read with the status and the headers that are read of the heads alone, or with the same error.
Any other body is read as if it stood alone. -/
theorem read_behind_heads (earlier : List ReplyHead) (last : ReplyHead) (body : List Char) :
    (¬HoldsStatusLine body →
      read (String.ofList ((earlier ++ [last]).flatMap ReplyHead.text ++ body)) =
        (read (String.ofList ((earlier ++ [last]).flatMap ReplyHead.text))).map fun x =>
          { x with body := String.ofList (Text.unifyLineEnds body) }) ∧
    (HoldsStatusLine body →
      read (String.ofList ((earlier ++ [last]).flatMap ReplyHead.text ++ body)) = read (String.ofList body)) := by
  constructor
  · intro hbody
    obtain ⟨head, hread⟩ := read_plain earlier last
    have halone := hread [] (by decide)
    rw [List.append_nil] at halone
    rw [hread body hbody, halone]
    cases head with
    | error e => rfl
    | ok x => rfl
  · intro hbody
    obtain ⟨block, hblock⟩ := lastBlock?_isSome hbody
    rw [read, read, String.toList_ofList, String.toList_ofList, ReplyHead.fields_heads,
      lastBlock?_append_of_some _ hblock, hblock]

/-- The head of an error of a gateway. -/
def badGateway : ReplyHead where
  status := { content := "HTTP/2.0 502 Bad Gateway".toList, lineEnd := .lf }
  headers := [{ content := "Server: proxy".toList, lineEnd := .lf }]
  blankEnd := .lf

/-- A page that shows what was received from the server behind the gateway. -/
def forgingPage : List Char :=
  "upstream said:\nHTTP/1.1 200 OK\nETag: x\n\n[]".toList

/-- A page of one line is read with the status of the head, and a page that shows a status line is read alone. -/
theorem read_behind_badGateway :
    (¬HoldsStatusLine "down".toList ∧
      read (String.ofList (([] ++ [badGateway]).flatMap ReplyHead.text ++ "down".toList)) =
        (read (String.ofList (([] ++ [badGateway]).flatMap ReplyHead.text))).map fun x =>
          { x with body := String.ofList (Text.unifyLineEnds "down".toList) }) ∧
    HoldsStatusLine forgingPage ∧
      read (String.ofList (([] ++ [badGateway]).flatMap ReplyHead.text ++ forgingPage)) =
        read (String.ofList forgingPage) := by
  have hplain : ¬HoldsStatusLine "down".toList := by decide
  have hforging : HoldsStatusLine forgingPage := by decide
  exact ⟨⟨hplain, (read_behind_heads [] badGateway _).1 hplain⟩,
    hforging, (read_behind_heads [] badGateway _).2 hforging⟩

/-- **A body can forge its head**: behind the same head of an error, one body is read as the error and another one as a
success with a header that the head does not hold. -/
theorem read_forged :
    (∃ x, read (String.ofList (badGateway.text ++ "down".toList)) = .ok x ∧ x.status = 502 ∧ x.isSuccess = false ∧
      x.headers.value? "etag" = none) ∧
    ∃ y, read (String.ofList (badGateway.text ++ forgingPage)) = .ok y ∧ y.status = 200 ∧ y.isSuccess = true ∧
      y.headers.value? "etag" = some "x" := by
  refine ⟨⟨⟨502, [("server", "proxy")], "down"⟩, ?_, rfl, rfl, rfl⟩, ⟨200, [("etag", "x")], "[]"⟩, ?_, rfl, rfl, rfl⟩
  · decide +kernel
  · decide +kernel

end Exchange

end RunSteward
