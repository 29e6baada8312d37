import RunSteward.Config.Toml.Value
import RunSteward.Text.Line

/-!
# Reading TOML

A document is a sequence of statements: assignments, table headers and headers of lists of tables. A table may be opened
by a header once, and a table that an assignment went through cannot be opened by a later header. Closed values take no
additions.
-/

namespace RunSteward.Toml

inductive Statement where
  | assign (key : Path) (value : Document)
  | table (path : Path)
  | tableInList (path : Path)

/-! ## Statements -/

/-- The header behind its opening brackets, up to and with its closing ones. -/
def readHeader? (closing : List Char) (s : List Char) : Option (Path × List Char) := do
  let (path, rest) ← readKey? (s.length + 1) (skipGap s)
  let rest ← closing.isPrefixOf? rest
  return (path, rest)

def readStatement? (s : List Char) : Option (Statement × List Char) :=
  match s with
  | '[' :: '[' :: cs => (readHeader? [']', ']'] cs).map fun p => (.tableInList p.1, p.2)
  | '[' :: cs => (readHeader? [']'] cs).map fun p => (.table p.1, p.2)
  | _ => do
    let (key, rest) ← readKey? (s.length + 1) s
    let rest ← after? '=' rest
    let (value, rest) ← readValue? (rest.length + 1) (skipGap rest)
    return (.assign key value, rest)

def readStatements? : Nat → List Char → Option (List Statement)
  | 0, _ => none
  | fuel + 1, s => do
    let next (rest : List Char) : Option (List Statement) := do
      match ← skipComment? (skipGap rest) with
      | [] => return []
      | '\n' :: rest => readStatements? fuel rest
      | _ => none
    match skipGap s with
    | [] => return []
    | '\n' :: rest => readStatements? fuel rest
    | '#' :: rest => next ('#' :: rest)
    | s =>
      let (statement, rest) ← readStatement? s
      let statements ← next rest
      return statement :: statements

/-! ## Assembly -/

/-- A document in the making: where assignments go, which values are closed, which tables were opened, and which ones
will count as opened from the next header on. -/
structure Draft where
  members : Document.Members := []
  header : Path := []
  closed : List Path := []
  opened : List Path := []
  passed : List Path := []

namespace Draft

/-- Tells whether a path leads to or into a closed value. -/
def isClosedAt (d : Draft) (path : Path) : Bool :=
  d.closed.any fun p => covers p path

/-- The proper, non-empty beginnings of a key, as paths from the root. -/
def passedBy (header key : Path) : List Path :=
  ((List.range (key.length - 1)).map fun i => header ++ key.take (i + 1))

def assign? (d : Draft) (key : Path) (value : Document) : Option Draft :=
  let through := passedBy d.header key
  let parent := d.header ++ key.dropLast
  let stem := key.getLastD ""
  if through.any (d.opened.contains ·) || d.isClosedAt parent then none
  else
    let change (ms : Document.Members) : Option Document.Members :=
      if (Document.find? ms stem).isSome then none else some (Document.put ms stem value)
    (Document.updateAt change parent d.members).map fun members =>
      { d with
        members := members
        passed := d.passed ++ through
        closed := if isClosed value then (d.header ++ key) :: d.closed else d.closed }

/-- A draft in which the tables that assignments went through count as opened. -/
def settle (d : Draft) : Draft :=
  { d with opened := d.passed ++ d.opened, passed := [] }

def open? (d : Draft) (path : Path) : Option Draft :=
  let d := d.settle
  if d.opened.contains path || d.isClosedAt path then none
  else
    (Document.updateAt some path d.members).map fun members =>
      { d with members := members, header := path, opened := path :: d.opened }

/-- A draft with a further table in a list of tables; what was opened or closed in the one before is free again. -/
def append? (d : Draft) (path : Path) : Option Draft :=
  let d := d.settle
  let stem := path.getLastD ""
  if d.isClosedAt path then none
  else
    let change (ms : Document.Members) : Option Document.Members :=
      match Document.find? ms stem with
      | none => some (Document.put ms stem (.list [.table []]))
      | some (.list items) => some (Document.put ms stem (.list (items ++ [.table []])))
      | some _ => none
    (Document.updateAt change path.dropLast d.members).map fun members =>
      { d with
        members := members
        header := path
        closed := d.closed.filter fun p => !covers path p
        opened := path :: d.opened.filter fun p => !covers path p }

def add? (d : Draft) : Statement → Option Draft
  | .assign key value => d.assign? key value
  | .table path => d.open? path
  | .tableInList path => d.append? path

end Draft

def read? (text : String) : Option Document.Members := do
  let s := Text.unifyLineEnds text.toList
  let statements ← readStatements? (s.length + 1) s
  let draft ← statements.foldlM Draft.add? {}
  return draft.members

end RunSteward.Toml
