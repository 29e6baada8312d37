/-!
# Character classes

A class of characters is a list of code point ranges. The tables of the standard classes are values of this type, so a
membership test is a finite check that also runs inside a proof.
-/

namespace RunSteward.Text

/-- A set of characters, given by ranges of code points with both ends included. -/
structure CharClass where
  ranges : List (Nat × Nat)
deriving Repr, DecidableEq

namespace CharClass

def has (k : CharClass) (c : Char) : Bool :=
  k.ranges.any fun r => r.1 ≤ c.toNat && c.toNat ≤ r.2

end CharClass

end RunSteward.Text
