import RunSteward.Gateway.HostAddress
import RunSteward.Text.CharClass

/-!
# URLs

A URL is cut into its scheme, its authority, its path and its query; parameters of the last path segment and the
fragment are left out. Only the authority can be wrong: by its brackets, or by characters that stand for a delimiter in
another shape.
-/

namespace RunSteward

structure Url where
  scheme : String
  authority : List Char
  path : List Char
  query : List Char
deriving DecidableEq, Repr

namespace Url

/-! ## Cleaning -/

/-- A text without control characters and spaces at its start, and without tabulators and line ends anywhere. -/
def clean (s : List Char) : List Char :=
  (s.dropWhile fun c => c.toNat ≤ 0x20).filter fun c => c != '\t' && c != '\r' && c != '\n'

/-! ## The scheme -/

def isSchemeChar (c : Char) : Bool :=
  c.isAlphanum || c == '+' || c == '-' || c == '.'

/-- The scheme in lower case with what follows its colon; a text that is not led by a letter has none. -/
def takeScheme (s : List Char) : String × List Char :=
  match s, Text.cut? ':' s with
  | c :: _, some (scheme, rest) =>
    if c.isAlpha ∧ scheme.all isSchemeChar then (String.ofList (scheme.map Char.toLower), rest)
    else ("", s)
  | _, _ => ("", s)

/-! ## The authority -/

def endsAuthority (c : Char) : Bool :=
  c == '/' || c == '?' || c == '#'

/-- The authority, if two slashes announce one, with what follows it. -/
def takeAuthority : List Char → List Char × List Char
  | '/' :: '/' :: s => (s.takeWhile (!endsAuthority ·), s.dropWhile (!endsAuthority ·))
  | s => ([], s)

/-- The characters whose compatibility form holds a slash, a question mark, a number sign, a colon or an at sign. -/
def disguisedDelimiterClass : Text.CharClass := ⟨[
  (0x2047, 0x2049), (0x2100, 0x2101), (0x2105, 0x2106), (0x2a74, 0x2a74), (0xfe13, 0xfe13),
  (0xfe16, 0xfe16), (0xfe55, 0xfe56), (0xfe5f, 0xfe5f), (0xfe6b, 0xfe6b), (0xff03, 0xff03),
  (0xff0f, 0xff0f), (0xff1a, 0xff1a), (0xff1f, 0xff20)]⟩

/-- An authority without the user: what follows the last at sign. -/
def dropUser (authority : List Char) : List Char :=
  (authority.reverse.takeWhile (· != '@')).reverse

/-- The host in an authority without a user. It fills the brackets, with nothing before them and at most a port behind,
or it goes up to the colon. -/
def host? (s : List Char) : Option (List Char) :=
  match Text.cut? '[' s with
  | none => some (s.takeWhile (· != ':'))
  | some ([], inside) =>
    match Text.cut? ']' inside with
    | none => some inside
    | some (host, []) => some host
    | some (host, c :: _) => if c = ':' then some host else none
  | some _ => none

/-- Tells whether an authority is well formed. Where it holds brackets, the host must be fit for them. -/
def isAuthority (s : List Char) : Bool :=
  s.contains '[' == s.contains ']'
    && (!s.contains '[' || (host? (dropUser s)).any HostAddress.isBracketed)
    && !s.any disguisedDelimiterClass.has

/-! ## Path and query -/

/-- The schemes whose last path segment may have parameters; a missing scheme is one of them. -/
def parameterSchemes : List String := [
  "", "ftp", "hdl", "prospero", "http", "imap", "https", "shttp", "rtsp", "rtspu", "sip", "sips",
  "mms", "sftp", "tel"]

/-- A path without the parameters of its last segment. -/
def dropParameters (path : List Char) : List Char :=
  match Text.cut? '/' path.reverse with
  | none => path.takeWhile (· != ';')
  | some (last, before) => before.reverse ++ '/' :: last.reverse.takeWhile (· != ';')

/-- The path and the query of what follows the authority. -/
def pathAndQuery (s : List Char) : List Char × List Char :=
  let s := s.takeWhile (· != '#')
  (s.takeWhile (· != '?'), (s.dropWhile (· != '?')).drop 1)

def read? (text : List Char) : Option Url :=
  let (scheme, rest) := takeScheme (clean text)
  let (authority, rest) := takeAuthority rest
  if isAuthority authority then
    let (path, query) := pathAndQuery rest
    let path := if parameterSchemes.contains scheme then dropParameters path else path
    some ⟨scheme, authority, path, query⟩
  else none

end Url

end RunSteward
