import RunSteward.Gateway.Exchange
import RunSteward.Json.Reader
import RunSteward.Text.Excerpt

/-!
# Refusals

A status outside success decides the kind of the error. The server may explain itself in a message; otherwise the
beginning of the body is shown.
-/

namespace RunSteward

namespace Refusal

/-- The number of characters of a body that messages show. -/
def previewLimit : Int := 240

/-- What a body says: the message in it if there is one, and otherwise its beginning. -/
def explanation (nesting : Nat) (body : String) : Except Fault String :=
  let trimmed := Text.trim body
  if trimmed.isEmpty then .ok Text.emptyMark
  else
    (Json.read nesting trimmed).map fun payload =>
      match payload.bind Json.object? with
      | some members =>
        match Json.get members "message" with
        | .string s => s
        | _ => Text.previewReply trimmed previewLimit
      | none => Text.previewReply trimmed previewLimit

def kindOf (status : Int) : HostErrorKind :=
  if status = 404 ∨ status = 410 then .notFound
  else if status = 409 ∨ status = 422 then .conflict
  else if status = 401 then .authentication
  else .general

/-- The error about a request that was answered by the given status and body. -/
def error (nesting : Nat) (method path : String) (status : Int) (body : String) :
    Except Fault HostError :=
  (explanation nesting body).map fun text =>
    ⟨kindOf status,
      "GitHub API " ++ method ++ " " ++ path ++ " failed with status " ++ toString status ++ ": "
        ++ text⟩

end Refusal

end RunSteward
