import RunSteward.Text.Line

/-!
# Addresses in brackets

In a URL an address that holds colons stands in brackets. It has eight groups of up to four digits in base sixteen, of
which one row of zero groups may be left out as a double colon; the last two groups may be written as four decimal
octets, and a zone may follow behind a percent sign. An address of a version to come starts with the letter v.
-/

namespace RunSteward

namespace HostAddress

def isHexDigit (c : Char) : Bool :=
  c.isDigit || ('a' ≤ c && c ≤ 'f') || ('A' ≤ c && c ≤ 'F')

/-- Tells whether a text is one octet: a number up to 255 without leading zeros. -/
def isOctet (s : List Char) : Bool :=
  match s with
  | [a] => a.isDigit
  | [a, b] => a.isDigit && b.isDigit && a != '0'
  | [a, b, c] =>
    a.isDigit && b.isDigit && c.isDigit && a != '0'
      && 100 * (a.toNat - 48) + 10 * (b.toNat - 48) + (c.toNat - 48) ≤ 255
  | _ => false

def isOctets (s : List Char) : Bool :=
  let octets := Text.fields '.' s
  octets.length == 4 && octets.all isOctet

def isGroup (s : List Char) : Bool :=
  !s.isEmpty && s.length ≤ 4 && s.all isHexDigit

/-- The groups of an address with the octets at its end replaced by two groups. -/
def spellOut? (groups : List (List Char)) : Option (List (List Char)) :=
  match groups.reverse with
  | last :: before =>
    if last.contains '.' then
      if isOctets last then some (before.reverse ++ [['0'], ['0']]) else none
    else some groups
  | [] => some groups

/-- Without the empty group that a double colon at the start or at the end leaves. -/
def dropEdge (groups : List (List Char)) : List (List Char) :=
  if groups = [[]] then [] else groups

/-- Tells whether groups make an address; an empty group inside stands for groups of zeros. -/
def isComplete : List (List Char) → Bool
  | [] => false
  | first :: rest =>
    let before := first :: rest.takeWhile fun g => !g.isEmpty
    match rest.dropWhile fun g => !g.isEmpty with
    | [] => before.length == 8 && before.all isGroup
    | [_] => false
    | _ :: after =>
      let before := dropEdge before
      let after := dropEdge after
      before.length + after.length ≤ 7 && before.all isGroup && after.all isGroup

def isZone (s : List Char) : Bool :=
  !s.isEmpty && !s.contains '%'

/-- Tells whether a text is an address in groups, perhaps with a zone. -/
def isGrouped (s : List Char) : Bool :=
  let address := match Text.cut? '%' s with
    | none => some s
    | some (a, zone) => if isZone zone then some a else none
  match address with
  | none => false
  | some a =>
    match spellOut? (Text.fields ':' a) with
    | none => false
    | some groups => isComplete groups

/-- Tells whether a text is an address of a version to come: the version in base sixteen, a point and anything. -/
def isFuture (s : List Char) : Bool :=
  let version := s.takeWhile isHexDigit
  match s.dropWhile isHexDigit with
  | '.' :: _ :: _ => !version.isEmpty
  | _ => false

def isBracketed (s : List Char) : Bool :=
  match s with
  | 'v' :: rest => isFuture rest
  | _ => isGrouped s

end HostAddress

end RunSteward
