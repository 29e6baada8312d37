/-!
# Percent encoding

Bytes of the UTF-8 form that may not stand in a path or a query are written as a percent sign and two hexadecimal
digits. In a query a space is written as a plus sign.
-/

namespace RunSteward.Text

/-- Letters, digits and the four marks that stand for themselves everywhere in a URL. -/
def isUnreserved (c : Char) : Bool :=
  c.isAlphanum || c = '_' || c = '.' || c = '-' || c = '~'

/-- The upper-case digit of a number below sixteen. -/
def upperHexDigit (n : Nat) : Char :=
  Char.ofNat (if n < 10 then 0x30 + n else 0x37 + n)

def percentByte (b : UInt8) : List Char :=
  ['%', upperHexDigit (b.toNat / 16), upperHexDigit (b.toNat % 16)]

/-- A character of a path: itself if it is unreserved or allowed here, otherwise its bytes. -/
def percentChar (allowed : Char → Bool) (c : Char) : List Char :=
  if isUnreserved c || allowed c then [c]
  else (String.utf8EncodeChar c).flatMap percentByte

def percentSegment (s : String) : String :=
  String.ofList (s.toList.flatMap (percentChar fun _ => false))

/-- A text as a path, in which slashes stand for themselves. -/
def percentPath (s : String) : String :=
  String.ofList (s.toList.flatMap (percentChar (· = '/')))

/-! ## Queries -/

def queryChar (c : Char) : List Char :=
  if c = ' ' then ['+'] else percentChar (fun _ => false) c

/-- A text as the name or the value of a query parameter. -/
def queryText (s : String) : String :=
  String.ofList (s.toList.flatMap queryChar)

/-- Parameters as a query, in the given order. -/
def queryLine (params : List (String × String)) : String :=
  "&".intercalate (params.map fun p => queryText p.1 ++ "=" ++ queryText p.2)

end RunSteward.Text
