import RunSteward.Gateway.Exchange
import RunSteward.Number.Shortest

/-!
# Pauses between attempts

Before the next attempt the gateway waits: twice as long after each attempt, or as long as the reply asks for, but never
more than a minute.
-/

namespace RunSteward

namespace Pause

/-- The pause after the first attempt, in seconds. -/
def first : Binary64 :=
  .ofRatio false 1 1

/-- The longest pause, in seconds. -/
def longest : Binary64 :=
  .ofRatio false 60 1

/-- A power of two. Far below zero the answer is known without computing. -/
def powerOfTwo (exponent : Int) : Binary64 :=
  match exponent with
  | .ofNat k => .ofRatio false (Nat.pow 2 k) 1
  | .negSucc k => if 1100 ≤ k then .zero false else .ofRatio false 1 (Nat.pow 2 (k + 1))

/-- The pause after an attempt: it doubles from one attempt to the next. An attempt number whose power of two no number
can hold has none. -/
def backoff (attempt : Int) : Except Fault Binary64 :=
  let exponent := attempt - 1
  if 1024 ≤ exponent ∨ (exponent < 0 ∧ (Binary64.ofInt? exponent).isNone) then .error .pauseTooLong
  else .ok (Binary64.least (powerOfTwo exponent) longest)

/-- The number of seconds that a row of digits stands for; ornamental digits stand for none. -/
def seconds (digits : List Char) : Except Fault Binary64 :=
  match Text.numeral? digits with
  | some n => .ok (.ofRatio false n 1)
  | none => .error .pauseUnreadable

def digits? (h : Headers) (name : String) : Option (List Char) :=
  ((h.value? name).map fun v => Text.trimChars v.toList).filter Text.isDigitRow

def instant : Number → Except Fault Binary64
  | .real x => .ok x
  | .whole n =>
    match Binary64.ofInt? n with
    | some x => .ok x
    | none => .error .pauseTooLong

/-- The pause until a given point in time, with a second to spare. -/
def untilReset (reset now : Binary64) : Binary64 :=
  let left := Binary64.greatest (reset.sub now) (.zero false)
  Binary64.least (left.add first) longest

/-- The pause after a reply that the rate limit is used up: the reply may say how long, or until when. -/
def rateLimit (h : Headers) (attempt : Int) (now : Number) : Except Fault Binary64 :=
  match digits? h "retry-after" with
  | some ds => (seconds ds).map fun s => Binary64.least s longest
  | none =>
    match digits? h "x-ratelimit-reset" with
    | some ds => do
      let reset ← seconds ds
      return untilReset reset (← instant now)
    | none => backoff attempt

end Pause

end RunSteward
