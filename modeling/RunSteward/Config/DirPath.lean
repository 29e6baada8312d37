import RunSteward.Text.Line

/-!
# Paths

A path is a root and the names below it. Empty names and single dots are dropped when a path is read. A path that starts
with a tilde begins in a home directory.
-/

namespace RunSteward

/-- A path; a relative one has an empty root. -/
structure DirPath where
  root : String
  names : List String
deriving DecidableEq, Repr

/-- The home directories of the users of a computer, by their names; without a name it is the home of whoever runs the
program. -/
abbrev Homes := Option String → Option String

/-- Why a home directory is not found. -/
inductive HomeError where
  /-- The tilde is followed by the name of nobody who has a home. -/
  | unknownUser
  /-- The tilde is followed by a name that no user can have. -/
  | impossibleUser
deriving DecidableEq, Repr

namespace DirPath

/-- The root at the start of a text: two slashes are a root of their own, any other number of them is one. -/
def rootOf (s : List Char) : String :=
  match (s.takeWhile (· = '/')).length with
  | 0 => ""
  | 2 => "//"
  | _ => "/"

def read (text : String) : DirPath :=
  let names := (Text.fields '/' text.toList).filter fun n => !n.isEmpty && n != ['.']
  ⟨rootOf text.toList, names.map String.ofList⟩

def text (p : DirPath) : String :=
  if p.root.isEmpty ∧ p.names.isEmpty then "." else p.root ++ "/".intercalate p.names

/-- The path that the text of a home directory names. Slashes at the end are dropped, and no text is left of the root
itself. -/
def ofHome (text : String) : DirPath :=
  match (text.toList.reverse.dropWhile (· = '/')).reverse with
  | [] => read "/"
  | s => read (String.ofList s)

/-- The home directory of the user whose name follows a tilde. A home that begins with a tilde itself is none. -/
def homeOf (homes : Homes) (user : List Char) : Except HomeError DirPath :=
  if user.contains '\x00' then .error .impossibleUser
  else
    match homes (if user.isEmpty then none else some (String.ofList user)) with
    | none => .error .unknownUser
    | some home => if home.toList.head? = some '~' then .error .unknownUser else .ok (ofHome home)

/-- A path with the tilde at its start replaced by the home directory. -/
def expandHome (p : DirPath) (homes : Homes) : Except HomeError DirPath :=
  match p.names with
  | [] => .ok p
  | first :: below =>
    match first.toList with
    | '~' :: user =>
      if !p.root.isEmpty then .ok p
      else (homeOf homes user).map fun home => ⟨home.root, home.names ++ below⟩
    | _ => .ok p

end DirPath

end RunSteward
