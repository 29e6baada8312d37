import RunSteward.Failure
import RunSteward.Text.Case
import RunSteward.Text.Digit
import RunSteward.Text.Line
import RunSteward.Text.Quoted

/-!
# Exchanges

A reply is printed as blocks of a status line and header lines, one block for each exchange with the server, and the
body behind the last block. The last status line counts; its headers go up to the next empty line, and the rest is the
body.
-/

namespace RunSteward

/-- Header lines by name in lower case; the last of equal names counts. -/
abbrev Headers := List (String × String)

namespace Headers

def value? (h : Headers) (name : String) : Option String :=
  List.lookup name h

/-- Gives a header a value: in place if its name is known, at the end if it is new. -/
def put (h : Headers) (name value : String) : Headers :=
  match h with
  | [] => [(name, value)]
  | e :: es => if e.1 = name then (name, value) :: es else e :: put es name value

/-- Takes up a header line; a line without a colon is passed over. -/
def addLine (h : Headers) (line : List Char) : Headers :=
  match Text.cut? ':' line with
  | none => h
  | some (name, value) =>
    h.put (Text.lower (Text.trim (String.ofList name))) (Text.trim (String.ofList value))

def ofLines (lines : List (List Char)) : Headers :=
  lines.foldl addLine []

end Headers

structure Exchange where
  status : Int
  headers : Headers
  body : String
deriving DecidableEq, Repr

namespace Exchange

def isStatusLine (line : List Char) : Bool :=
  "HTTP/".toList.isPrefixOf line

/-- The last status line with the lines after it. -/
def lastBlock? : List (List Char) → Option (List Char × List (List Char))
  | [] => none
  | l :: ls =>
    match lastBlock? ls with
    | some block => some block
    | none => if isStatusLine l then some (l, ls) else none

/-- The status code in a status line: the second of the parts between spaces. -/
def statusCode? (line : List Char) : Option Int :=
  match Text.fields ' ' line with
  | _ :: code :: _ => Text.integer? code
  | _ => none

def unreadable (what : String) : HostError :=
  ⟨.transient, "Unexpected GitHub response" ++ what⟩

def read (raw : String) : Except HostError Exchange :=
  match lastBlock? (Text.fields '\n' (Text.unifyLineEnds raw.toList)) with
  | none => .error (unreadable ": missing HTTP status line")
  | some (line, rest) =>
    match statusCode? line with
    | none => .error (unreadable (" status line: " ++ Text.quoted (String.ofList line)))
    | some status =>
      let head := rest.takeWhile fun l => !l.isEmpty
      let body := (rest.dropWhile fun l => !l.isEmpty).drop 1
      .ok ⟨status, Headers.ofLines head, String.ofList (['\n'].intercalate body)⟩

def isSuccess (e : Exchange) : Bool :=
  (200 ≤ e.status && e.status < 300) || e.status == 304

def isRateLimited (e : Exchange) : Bool :=
  e.status == 429
    || (e.status == 403
      && (e.headers.value? "x-ratelimit-remaining" == some "0"
        || (e.headers.value? "retry-after").isSome))

end Exchange

end RunSteward
