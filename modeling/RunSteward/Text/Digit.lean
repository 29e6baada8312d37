import RunSteward.Text.Blank

/-!
# Digits and integers

Decimal digits of every script count as digits. An integer is an optional sign and digits, in which a single low line
may stand between two digits, with white space around it.
-/

namespace RunSteward.Text

/-- The code points of the decimal digit zero in each script; the other nine digits follow each of them. -/
def digitZeros : List Nat := [
  0x30, 0x660, 0x6f0, 0x7c0, 0x966, 0x9e6, 0xa66, 0xae6, 0xb66, 0xbe6, 0xc66, 0xce6, 0xd66, 0xde6,
  0xe50, 0xed0, 0xf20, 0x1040, 0x1090, 0x17e0, 0x1810, 0x1946, 0x19d0, 0x1a80, 0x1a90, 0x1b50,
  0x1bb0, 0x1c40, 0x1c50, 0xa620, 0xa8d0, 0xa900, 0xa9d0, 0xa9f0, 0xaa50, 0xabf0, 0xff10, 0x104a0,
  0x10d30, 0x11066, 0x110f0, 0x11136, 0x111d0, 0x112f0, 0x11450, 0x114d0, 0x11650, 0x116c0,
  0x11730, 0x118e0, 0x11950, 0x11c50, 0x11d50, 0x11da0, 0x16a60, 0x16ac0, 0x16b50, 0x1d7ce,
  0x1d7d8, 0x1d7e2, 0x1d7ec, 0x1d7f6, 0x1e140, 0x1e2f0, 0x1e950, 0x1fbf0]

/-- The value of a decimal digit of any script. -/
def digitValue? (c : Char) : Option Nat :=
  (digitZeros.find? fun z => z ≤ c.toNat && c.toNat < z + 10).map (c.toNat - ·)

/-- Tells whether a character is a decimal digit of some script. -/
def isDigit (c : Char) : Bool :=
  (digitValue? c).isSome

/-- Digits that have a value but take no part in decimal numerals, such as superscripts and circled digits. -/
def ornamentalDigitClass : CharClass := ⟨[
  (0xb2, 0xb3), (0xb9, 0xb9), (0x1369, 0x1371), (0x19da, 0x19da), (0x2070, 0x2070),
  (0x2074, 0x2079), (0x2080, 0x2089), (0x2460, 0x2468), (0x2474, 0x247c), (0x2488, 0x2490),
  (0x24ea, 0x24ea), (0x24f5, 0x24fd), (0x24ff, 0x24ff), (0x2776, 0x277e), (0x2780, 0x2788),
  (0x278a, 0x2792), (0x10a40, 0x10a43), (0x10e60, 0x10e68), (0x11052, 0x1105a), (0x1f100, 0x1f10a)]⟩

/-- Tells whether a character has a digit value, ornamental digits included. -/
def isAnyDigit (c : Char) : Bool :=
  isDigit c || ornamentalDigitClass.has c

/-- Tells whether a text is a non-empty row of digits, ornamental ones included. -/
def isDigitRow (s : List Char) : Bool :=
  !s.isEmpty && s.all isAnyDigit

/-! ## Numerals -/

/-- The number that a row of decimal digits denotes, continuing from the digits already read. -/
def foldDigits? (acc : Nat) : List Char → Option Nat
  | [] => some acc
  | c :: cs => (digitValue? c).bind fun d => foldDigits? (10 * acc + d) cs

/-- The number that a non-empty row of decimal digits denotes. -/
def numeral? (s : List Char) : Option Nat :=
  if s.isEmpty then none else foldDigits? 0 s

/-! ## Integers -/

/-- The most digits that a numeral may have if it is to be read as an integer, or an integer to be written. Signs and
separators do not count. -/
def digitLimit : Nat := 4300

/-- Tells whether an integer has no more digits than can be read and written. -/
def isWritable (n : Int) : Bool :=
  n.natAbs < Nat.pow 10 digitLimit

/-- White space that may surround an integer: blanks other than the information separators. -/
def isMargin (c : Char) : Bool :=
  isBlank c && !(0x1c ≤ c.toNat && c.toNat ≤ 0x1f)

/-- Removes the low lines that stand between two digits; any other low line spoils the numeral. -/
def dropSeparators? : List Char → Option (List Char)
  | [] => some []
  | [c] => if c = '_' then none else some [c]
  | c :: '_' :: d :: cs =>
    if c = '_' || d = '_' then none
    else (dropSeparators? (d :: cs)).map (c :: ·)
  | c :: d :: cs => if c = '_' then none else (dropSeparators? (d :: cs)).map (c :: ·)

/-- The number that digits with separators denote, unless there are too many of them. -/
def separatedNumeral? (s : List Char) : Option Nat :=
  ((dropSeparators? s).filter fun ds => ds.length ≤ digitLimit).bind numeral?

/-- Reads an integer with an optional sign, surrounded by white space. -/
def integer? (s : List Char) : Option Int :=
  match ((s.dropWhile isMargin).reverse.dropWhile isMargin).reverse with
  | '-' :: ds => (separatedNumeral? ds).map fun n => -(n : Int)
  | '+' :: ds => (separatedNumeral? ds).map Int.ofNat
  | ds => (separatedNumeral? ds).map Int.ofNat

end RunSteward.Text
