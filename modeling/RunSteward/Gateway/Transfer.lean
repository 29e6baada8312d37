import RunSteward.Gateway.Link
import RunSteward.Gateway.Request

/-!
# Reading and writing resources

A read gives the payload at a path, from the server or, if the server says that nothing has changed, from memory. A
write is noted in the log, whether it is accepted or refused.
-/

namespace RunSteward

namespace Gateway

variable {σ : Type}

/-! ## Reading -/

/-- The payload and the place of the next page that a fresh reply carries; with a tag they are remembered. -/
def takeFresh (g : Gateway σ) (path : String) (reply : Exchange) :
    Act (Session σ) (Json × Option Cursor) := do
  match ← Act.orHalt (Json.read g.nesting reply.body) with
  | none => Act.refuse ⟨.transient, "GitHub returned malformed JSON for path " ++ path⟩
  | some payload =>
    let next ← Act.orHalt (Link.next (reply.headers.value? "link"))
    match (reply.headers.value? "etag").filter fun tag => !tag.isEmpty with
    | some etag => Session.remember path ⟨etag, payload, next⟩
    | none => pure ()
    return (payload, next)

/-- The payload at a path and the place of the next page. -/
def getJson (g : Gateway σ) (path : String) : Act (Session σ) (Json × Option Cursor) := do
  let known ← Session.remembered path
  let reply ← g.request { method := .get, path, etag := known.map TaggedReply.etag }
  if reply.status = 304 then
    match known with
    | some k => return (k.payload, k.next)
    | none =>
      Act.refuse ⟨.transient, "GitHub returned 304 for uncached path: " ++ path⟩
  else g.takeFresh path reply

/-- Notes in the log what was read. -/
def noteRead (endpoint : String) (more : LogFields) : Act (Session σ) Unit :=
  Act.info logger "github_read" (("endpoint", .text endpoint) :: more)

/-! ## Writing -/

/-- Sends a write. What the server answers is given back if it is well-formed. -/
def send (g : Gateway σ) (r : Request) (event : String) (fields : LogFields) :
    Act (Session σ) (Option Json) := do
  match ← Act.attempt (g.request r) with
  | .error e =>
    Act.warn logger (event ++ "_failed")
      ([("repo_full_name", .text g.fullName), ("method", .text r.method.name),
        ("path", .text r.path)] ++ Act.errorFields e ++ fields)
    Act.refuse e
  | .ok reply =>
    Act.info logger event fields
    Act.orHalt (Json.read g.nesting reply.body)

end Gateway

end RunSteward
