import RunSteward.Number.Binary64

/-!
# Configuration documents

A document is a table of named values: texts, numbers, flags, points in time, lists and further tables. A key may also
be present without a value.
-/

namespace RunSteward

/-- A value of a configuration document. -/
inductive Document where
  | absent
  | flag (b : Bool)
  | whole (n : Int)
  | real (x : Binary64)
  | text (s : String)
  | moment (written : String)
  | list (items : List Document)
  | table (members : List (String × Document))
deriving Inhabited

namespace Document

abbrev Members := List (String × Document)

def find? (members : Members) (key : String) : Option Document :=
  (members.find? fun m => m.1 == key).map (·.2)

/-- Gives a key a value: in place if the key is known, at the end if it is new. -/
def put (members : Members) (key : String) (value : Document) : Members :=
  match members with
  | [] => [(key, value)]
  | m :: ms => if m.1 = key then (key, value) :: ms else m :: put ms key value

/-- The table that a path step leads to: a table itself, or the last one of a list of tables. Both come with the way to
put a changed table back. -/
def nest? : Document → Option (Members × (Members → Document))
  | .table ms => some (ms, .table)
  | .list items =>
    match items.reverse with
    | .table ms :: before => some (ms, fun ms => .list ((.table ms :: before).reverse))
    | _ => none
  | _ => none

/-- Changes the table at a path; tables that are missing on the way are created. Fails where the path leads through
another value. -/
def updateAt (change : Members → Option Members) : List String → Members → Option Members
  | [], members => change members
  | key :: path, members =>
    match find? members key with
    | none => (updateAt change path []).map fun inner => put members key (.table inner)
    | some value => do
      let (inner, putBack) ← nest? value
      let inner ← updateAt change path inner
      return put members key (putBack inner)

/-- Changes the table at a path that leads through tables only. -/
def updateTables (change : Members → Option Members) : List String → Members → Option Members
  | [], members => change members
  | key :: path, members =>
    match find? members key with
    | none => (updateTables change path []).map fun inner => put members key (.table inner)
    | some (.table inner) =>
      (updateTables change path inner).map fun inner => put members key (.table inner)
    | some _ => none

end Document

end RunSteward
