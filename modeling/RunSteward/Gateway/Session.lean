import RunSteward.Command.Station
import RunSteward.Host
import RunSteward.Json.Basic

/-!
# Sessions

In the course of a session the gateway remembers the replies that carry a tag, so that the server need not send again
what has not changed. Where the gateway works is a station.
-/

namespace RunSteward

/-- A reply as it is remembered: its tag, its payload and the place of the next page. -/
structure TaggedReply where
  etag : String
  payload : Json
  next : Option Cursor

/-- The remembered replies by path. -/
abbrev ReplyCache := List (String × TaggedReply)

namespace ReplyCache

def reply? (c : ReplyCache) (path : String) : Option TaggedReply :=
  List.lookup path c

/-- Remembers a reply in place of what was remembered for its path. -/
def remember (c : ReplyCache) (path : String) (r : TaggedReply) : ReplyCache :=
  (path, r) :: c.filter fun e => e.1 != path

end ReplyCache

/-- The outside world of a session with what the gateway remembers. -/
structure Session (σ : Type) where
  world : σ
  cache : ReplyCache := []

/-- What talks to the server about one repository. Payloads that are nested deeper than its limit cannot be read. -/
structure Gateway (σ : Type) where
  station : Station σ
  owner : String
  name : String
  timeLimit : Number := .real (.ofRatio false 60 1)
  maxAttempts : Int := 3
  nesting : Nat := 900

variable {σ α : Type}

namespace Session

/-- Does an act of the station in a session. -/
def outside (x : Act σ α) : Act (Session σ) α :=
  Act.focus Session.world (fun w s => { s with world := w }) x

def remembered (path : String) : Act (Session σ) (Option TaggedReply) :=
  Act.outside fun s => (s.cache.reply? path, s)

def remember (path : String) (r : TaggedReply) : Act (Session σ) Unit :=
  Act.outside fun s => ((), { s with cache := s.cache.remember path r })

end Session

namespace Gateway

def logger : String := "repowarden.github_gateway"

def fullName (g : Gateway σ) : String :=
  g.owner ++ "/" ++ g.name

def pathTo (g : Gateway σ) (suffix : String) : String :=
  "/repos/" ++ g.owner ++ "/" ++ g.name ++ suffix

def clock (g : Gateway σ) : Act (Session σ) Stamp :=
  Session.outside g.station.clock

end Gateway

end RunSteward
