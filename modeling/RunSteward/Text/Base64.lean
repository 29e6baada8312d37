/-!
# Base64

Four characters carry three bytes. Reading passes over every character outside the alphabet, such as line breaks, and
stops at a complete padding; a text that ends within a group of four is refused.
-/

namespace RunSteward.Text.Base64

/-- The value of a character of the alphabet. -/
def sextet? (c : Char) : Option Nat :=
  if 'A' ≤ c ∧ c ≤ 'Z' then some (c.toNat - 65)
  else if 'a' ≤ c ∧ c ≤ 'z' then some (c.toNat - 71)
  else if '0' ≤ c ∧ c ≤ '9' then some (c.toNat + 4)
  else if c = '+' then some 62
  else if c = '/' then some 63
  else none

/-- The bytes that a started group holds; each further sextet completes one byte. -/
def groupBytes : List Nat → List UInt8
  | [a, b] => [(4 * a + b / 16).toUInt8]
  | [a, b, c] => [(4 * a + b / 16).toUInt8, (16 * (b % 16) + c / 4).toUInt8]
  | [a, b, c, d] =>
    [(4 * a + b / 16).toUInt8, (16 * (b % 16) + c / 4).toUInt8, (64 * (c % 4) + d).toUInt8]
  | _ => []

/-- Reads on, given the sextets of the started group and the padding signs met since the last of them. -/
def decodeFrom (group : List Nat) (pads : Nat) : List Char → Option (List UInt8)
  | [] => if group.isEmpty then some [] else none
  | c :: cs =>
    if c = '=' then
      if 2 ≤ group.length then
        if 4 ≤ group.length + (pads + 1) then some (groupBytes group)
        else decodeFrom group (pads + 1) cs
      else decodeFrom group pads cs
    else match sextet? c with
      | none => decodeFrom group pads cs
      | some s =>
        if group.length = 3 then
          (decodeFrom [] 0 cs).map (groupBytes (group ++ [s]) ++ ·)
        else decodeFrom (group ++ [s]) 0 cs

/-- The bytes that a text in base64 carries. -/
def decode (s : String) : Option (List UInt8) :=
  decodeFrom [] 0 s.toList

end RunSteward.Text.Base64
