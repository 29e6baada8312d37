import RunSteward.Command.Station

/-!
# Scripted stations

A script says beforehand how commands end, so that work can be done without a server. It keeps what was asked of it: the
commands that were run and the pauses that were made.
-/

namespace RunSteward

/-- How commands end by the resource that they ask for, and what was asked so far, latest first. -/
structure Script where
  /-- The ends of the requests for each resource, used in turn; the last one is used for ever. -/
  routes : List (String × List CommandEnd)
  /-- The end of a request for any other resource. -/
  fallback : CommandEnd
  /-- The end of a command that is no request. -/
  otherwise : CommandEnd
  clock : Stamp
  calls : List Command := []
  pauses : List Number := []

namespace Script

/-- The word that follows a mark. -/
def after? (mark : String) : List String → Option String
  | a :: b :: rest => if a = mark then some b else after? mark (b :: rest)
  | _ => none

def isRequest (argv : List String) : Bool :=
  argv.take 2 == ["gh", "api"]

/-- The resource that a request asks for: the method and the path. -/
def resource (argv : List String) : String :=
  (after? "--method" argv).getD "" ++ " " ++ (after? "--include" argv).getD ""

/-- A script in which the requests for a resource end anew. -/
def setRoute (s : Script) (resource : String) (ends : List CommandEnd) : Script :=
  { s with routes := (resource, ends) :: s.routes.filter fun r => r.1 != resource }

def run (c : Command) (s : Script) : CommandEnd × Script :=
  let s := { s with calls := c :: s.calls }
  if isRequest c.argv then
    let key := resource c.argv
    match List.lookup key s.routes with
    | some (e :: next :: rest) => (e, s.setRoute key (next :: rest))
    | some [e] => (e, s)
    | _ => (s.fallback, s)
  else (s.otherwise, s)

def pause (n : Number) (s : Script) : Script :=
  { s with pauses := n :: s.pauses }

/-- The script without what was asked so far. -/
def forget (s : Script) : Script :=
  { s with calls := [], pauses := [] }

def station : Station Script where
  run := run
  pause := pause
  now := Script.clock

/-- A wait for the next pass, which tells to stop when so many pauses were made. -/
def wait (limit : Nat) (seconds : Int) : Act Script Bool :=
  Act.outside fun s =>
    let s := s.pause (.whole seconds)
    (decide (limit ≤ (s.pauses.filter (· == .whole seconds)).length), s)

end Script

end RunSteward
