import RunSteward.Failure
import RunSteward.Gateway.Url
import RunSteward.Text.Blank

/-!
# Links to the next page

A reply that holds one page of a listing names the URL of the next one in a header. Of that URL the path and the query
count.
-/

namespace RunSteward

namespace Link

/-- Tells whether a text goes on with a semicolon, blanks around it aside, and the relation to the next page. -/
def namesNext (s : List Char) : Bool :=
  match Text.trimLeft s with
  | ';' :: rest => "rel=\"next\"".toList.isPrefixOf (Text.trimLeft rest)
  | _ => false

/-- The URL at the start of a text, if it is one in angle brackets that leads to the next page. -/
def here? : List Char → Option (List Char)
  | '<' :: s =>
    match Text.cut? '>' s with
    | some (url, rest) => if !url.isEmpty && namesNext rest then some url else none
    | none => none
  | _ => none

/-- The first URL in a text that leads to the next page. -/
def search? : List Char → Option (List Char)
  | [] => none
  | c :: cs =>
    match here? (c :: cs) with
    | some url => some url
    | none => search? cs

/-- The path with the query that a URL leads to; a URL without a path leads nowhere. -/
def target? (u : Url) : Option String :=
  if u.path.isEmpty then none
  else if u.query.isEmpty then some (String.ofList u.path)
  else some (String.ofList (u.path ++ '?' :: u.query))

/-- The place of the next page that a header names. -/
def next (header : Option String) : Except Fault (Option String) :=
  match search? (header.getD "").toList with
  | none => .ok none
  | some url =>
    match Url.read? url with
    | none => .error .linkUnreadable
    | some u => .ok (target? u)

end Link

end RunSteward
