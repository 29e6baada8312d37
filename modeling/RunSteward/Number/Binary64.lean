/-!
# Binary floating point

The finite numbers of binary64 are `mantissa * 2 ^ exponent` with a mantissa below `2 ^ 53`. Every operation is exact on
these integers and rounds once, to the nearest number and to an even mantissa in a tie.
-/

namespace RunSteward

/-- A binary64 number. A finite one carries its sign apart, so zero has two forms. -/
inductive Binary64 where
  | finite (negative : Bool) (mantissa : Nat) (exponent : Int)
  | infinite (negative : Bool)
  | nan
deriving DecidableEq, Repr, Inhabited

namespace Binary64

/-- The exponent of the smallest numbers. -/
def minExponent : Int := -1074

/-- The greatest exponent of a finite number with a full mantissa. -/
def maxExponent : Int := 971

/-- Zero of the given sign. -/
def zero (negative : Bool) : Binary64 :=
  .finite negative 0 minExponent

/-! ## Rounding -/

/-- The quotient rounded to the nearest integer, a half going to the even neighbour. -/
def roundQuotient (num den : Nat) : Nat :=
  let q := num / den
  let r := num % den
  if 2 * r < den then q
  else if den < 2 * r then q + 1
  else if q % 2 = 0 then q else q + 1

/-- The ratio divided by a power of two, as a numerator and a denominator. -/
def scaleDown (num den : Nat) (e : Int) : Nat × Nat :=
  match e with
  | .ofNat k => (num, den * Nat.pow 2 k)
  | .negSucc k => (num * Nat.pow 2 (k + 1), den)

/-- The least exponent at which the ratio has a mantissa below `2 ^ 53`, but not below `minExponent`. -/
def exponentOf (num den : Nat) : Int :=
  let guess : Int := max (num.log2 - den.log2 - 53 : Int) minExponent
  let s := scaleDown num den guess
  if s.1 / s.2 < Nat.pow 2 53 then guess else guess + 1

/-- The number nearest to a positive ratio. -/
def ofRatio (negative : Bool) (num den : Nat) : Binary64 :=
  if num = 0 then zero negative
  else
    let e := exponentOf num den
    let s := scaleDown num den e
    let m := roundQuotient s.1 s.2
    let full := m = Nat.pow 2 53
    let e := if full then e + 1 else e
    if maxExponent < e then .infinite negative
    else .finite negative (if full then Nat.pow 2 52 else m) e

/-- The number nearest to `digits * 10 ^ exponent`; far outside the range the answer is known without computing. -/
def ofDecimal (negative : Bool) (digits : Nat) (exponent : Int) : Binary64 :=
  if digits = 0 then zero negative
  else
    let size : Int := (Nat.toDigits 10 digits).length
    if 310 < size + exponent then .infinite negative
    else if size + exponent < -330 then zero negative
    else match exponent with
      | .ofNat k => ofRatio negative (digits * Nat.pow 10 k) 1
      | .negSucc k => ofRatio negative digits (Nat.pow 10 (k + 1))

/-- The number nearest to an integer, unless the integer lies beyond the finite numbers. -/
def ofInt? (n : Int) : Option Binary64 :=
  match ofRatio (n < 0) n.natAbs 1 with
  | .infinite _ => none
  | x => some x

/-! ## Arithmetic -/

/-- The integer that a signed mantissa is at a lower exponent. -/
def alignTo (low : Int) (negative : Bool) (m : Nat) (e : Int) : Int :=
  let n : Int := m * Nat.pow 2 (e - low).toNat
  if negative then -n else n

/-- The number nearest to an integer times a power of two. -/
def ofScaled (n : Int) (e : Int) : Binary64 :=
  match e with
  | .ofNat k => ofRatio (n < 0) (n.natAbs * Nat.pow 2 k) 1
  | .negSucc k => ofRatio (n < 0) n.natAbs (Nat.pow 2 (k + 1))

def neg : Binary64 → Binary64
  | .finite s m e => .finite (!s) m e
  | .infinite s => .infinite (!s)
  | .nan => .nan

def add : Binary64 → Binary64 → Binary64
  | .nan, _ => .nan
  | _, .nan => .nan
  | .infinite s, .infinite t => if s = t then .infinite s else .nan
  | .infinite s, .finite .. => .infinite s
  | .finite .., .infinite t => .infinite t
  | .finite s m e, .finite t n f =>
    if m = 0 ∧ n = 0 then zero (s && t)
    else
      let low := min e f
      ofScaled (alignTo low s m e + alignTo low t n f) low

def sub (x y : Binary64) : Binary64 :=
  add x (neg y)

/-- The order of numbers; nothing is below or above `nan`. -/
def lt : Binary64 → Binary64 → Bool
  | .nan, _ => false
  | _, .nan => false
  | .infinite s, .infinite t => s && !t
  | .infinite s, .finite .. => s
  | .finite .., .infinite t => !t
  | .finite s m e, .finite t n f =>
    let low := min e f
    alignTo low s m e < alignTo low t n f

/-- The smaller of two numbers; the first one if they do not differ. -/
def least (x y : Binary64) : Binary64 :=
  if lt y x then y else x

/-- The greater of two numbers; the first one if they do not differ. -/
def greatest (x y : Binary64) : Binary64 :=
  if lt x y then y else x

end Binary64

end RunSteward
