import RunSteward.Number.Binary64

/-!
# Shortest decimal text

A binary64 number is written with the fewest digits that read back as the same number, and of these the nearest.
Exponents from -4 to 15 are written positionally, with `.0` behind a whole number; others follow the mark `e` with a
sign and at least two digits.
-/

namespace RunSteward

namespace Binary64

/-- The exponent of the first significant decimal digit of a positive ratio. -/
def decimalExponent (num den : Nat) : Int :=
  if den ≤ num then (Nat.toDigits 10 (num / den)).length - 1
  else
    let q := den / num
    let size := (Nat.toDigits 10 q).length
    if q * num = den ∧ q = Nat.pow 10 (size - 1) then 1 - (size : Int) else -(size : Int)

/-- The ratio divided by a power of ten, as a numerator and a denominator. -/
def scaleDecimal (num den : Nat) (e : Int) : Nat × Nat :=
  match e with
  | .ofNat k => (num, den * Nat.pow 10 k)
  | .negSucc k => (num * Nat.pow 10 (k + 1), den)

/-- The neighbours of a positive ratio on the grid of `count` significant digits, the nearer one first. -/
def gridNeighbours (num den count : Nat) : List (Nat × Int) :=
  let unit := decimalExponent num den + 1 - count
  let s := scaleDecimal num den unit
  let q := s.1 / s.2
  let r := s.1 % s.2
  let low := (q, unit)
  let high := (q + 1, unit)
  if r = 0 then [low]
  else if 2 * r < s.2 ∨ (2 * r = s.2 ∧ q % 2 = 0) then [low, high] else [high, low]

/-- The first neighbour that reads back, on the coarsest grid that has one. -/
def shortestFrom (x : Binary64) (negative : Bool) (num den : Nat) : Nat → Nat → Nat × Int
  | 0, _ => (0, 0)
  | fuel + 1, count =>
    match (gridNeighbours num den count).find? fun c => ofDecimal negative c.1 c.2 = x with
    | some c => c
    | none => shortestFrom x negative num den fuel (count + 1)

/-- A decimal number without trailing zeros in its digits. -/
def stripZeros : Nat → Nat → Int → Nat × Int
  | 0, digits, e => (digits, e)
  | fuel + 1, digits, e =>
    if digits ≠ 0 ∧ digits % 10 = 0 then stripZeros fuel (digits / 10) (e + 1) else (digits, e)

/-- The shortest decimal digits and exponent of a finite number that is not zero; seventeen digits always suffice. -/
def shortest (negative : Bool) (m : Nat) (e : Int) : Nat × Int :=
  let ratio : Nat × Nat := match e with
    | .ofNat k => (m * Nat.pow 2 k, 1)
    | .negSucc k => (m, Nat.pow 2 (k + 1))
  let c := shortestFrom (.finite negative m e) negative ratio.1 ratio.2 17 1
  stripZeros 20 c.1 c.2

/-! ## Notation -/

/-- Digits with a point after the first of them, if more follow. -/
def pointAfterFirst : List Char → List Char
  | [] => []
  | [d] => [d]
  | d :: ds => d :: '.' :: ds

/-- A decimal exponent with its sign and at least two digits. -/
def exponentText (e : Int) : List Char :=
  let ds := Nat.toDigits 10 e.natAbs
  (if e < 0 then '-' else '+') :: (if ds.length < 2 then '0' :: ds else ds)

/-- The text of digits whose first one has the given exponent. -/
def layout (ds : List Char) (first : Int) : List Char :=
  if -4 ≤ first ∧ first < 0 then
    '0' :: '.' :: (List.replicate (-first - 1).toNat '0' ++ ds)
  else if 0 ≤ first ∧ first < 16 then
    let whole := first.toNat + 1
    if ds.length ≤ whole then
      ds ++ List.replicate (whole - ds.length) '0' ++ ['.', '0']
    else ds.take whole ++ '.' :: ds.drop whole
  else pointAfterFirst ds ++ 'e' :: exponentText first

def text : Binary64 → String
  | .nan => "nan"
  | .infinite negative => if negative then "-inf" else "inf"
  | .finite negative m e =>
    let body :=
      if m = 0 then "0.0".toList
      else
        let c := shortest negative m e
        let ds := Nat.toDigits 10 c.1
        layout ds (c.2 + ds.length - 1)
    String.ofList (if negative then '-' :: body else body)

end Binary64

/-- A number as it is given: an integer of any size or a binary64 number. -/
inductive Number where
  | whole (n : Int)
  | real (x : Binary64)
deriving DecidableEq, Repr, Inhabited

namespace Number

def text : Number → String
  | .whole n => toString n
  | .real x => x.text

end Number

end RunSteward
