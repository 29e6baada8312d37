import RunSteward.Text.Digit
import RunSteward.Text.Line

/-!
# Words of a command line

A word is an option or an operand. A long option may be shortened as long as its beginning fits no other option, and
carries its argument behind an equals sign or in the next word; a short option carries it directly. What looks like a
negative number or holds a space is an operand. After a word of two hyphens all words are operands.
-/

namespace RunSteward

inductive Flag where
  | help
  | config
  | verbose
  | once
  | dryRun
  | json
deriving DecidableEq, Repr

namespace Flag

def spellings : Flag → List String
  | .help => ["-h", "--help"]
  | .config => ["--config"]
  | .verbose => ["-v", "--verbose"]
  | .once => ["--once"]
  | .dryRun => ["--dry-run"]
  | .json => ["--json"]

end Flag

inductive Word where
  | operand (text : String)
  | flag (f : Flag) (attached : Option String)
  /-- Two hyphens, behind which all words are operands. -/
  | barrier
  /-- An option that there is not, or one whose beginning fits several. -/
  | unknown
deriving DecidableEq, Repr

namespace Word

/-- Tells whether a text is a negative number: a hyphen and digits, perhaps with a point before the last of them. A line
end may follow. -/
def isNegativeNumber (s : List Char) : Bool :=
  match s with
  | '-' :: s =>
    let s := if s.getLast? = some '\n' then s.dropLast else s
    match (s.dropWhile Text.isDigit) with
    | [] => !s.isEmpty
    | '.' :: places => !places.isEmpty && places.all Text.isDigit
    | _ => false
  | _ => false

/-- The options among the given ones that have a spelling with a property. -/
def having (flags : List Flag) (p : String → Bool) : List Flag :=
  flags.filter fun f => f.spellings.any p

def spelledOut? (flags : List Flag) (text : List Char) : Option Flag :=
  flags.find? fun f => f.spellings.any fun s => s.toList == text

/-- A text that is cut at its first equals sign, if it has one. -/
def cutArgument (text : List Char) : List Char × Option String :=
  match Text.cut? '=' text with
  | some (name, argument) => (name, some (String.ofList argument))
  | none => (text, none)

/-- Reads an option that is shortened, or one with its argument attached. -/
def abbreviated? (flags : List Flag) (text : List Char) : Option Word :=
  let (name, argument) := cutArgument text
  match text with
  | '-' :: '-' :: _ =>
    match having flags fun s => name.isPrefixOf s.toList with
    | [f] => some (.flag f argument)
    | [] => none
    | _ => some .unknown
  | '-' :: c :: rest =>
    (spelledOut? flags ['-', c]).map fun f => .flag f (some (String.ofList rest))
  | _ => none

def ofHyphened (flags : List Flag) (text : List Char) : Word :=
  let (name, argument) := cutArgument text
  match spelledOut? flags text, spelledOut? flags name with
  | some f, _ => .flag f none
  | none, some f => .flag f argument
  | none, none =>
    match abbreviated? flags text with
    | some w => w
    | none =>
      if isNegativeNumber text || text.contains ' ' then .operand (String.ofList text) else .unknown

def read (flags : List Flag) (text : String) : Word :=
  match text.toList with
  | ['-', '-'] => .barrier
  | '-' :: c :: rest => ofHyphened flags ('-' :: c :: rest)
  | _ => .operand text

/-- Reads words up to the barrier and takes all words behind it as operands. -/
def readAll (flags : List Flag) : List String → List Word
  | [] => []
  | text :: texts =>
    match read flags text with
    | .barrier => .barrier :: texts.map .operand
    | w => w :: readAll flags texts

end Word

end RunSteward
