import RunSteward.CommandLine.Word
import RunSteward.Log.Setup

/-!
# Invocations

A command line names an errand and the options it is done with. A line that is not understood is rejected.
-/

namespace RunSteward

/-- What the program is told to do. -/
inductive Errand where
  | run (once rehearsal : Bool)
  | plan (asData : Bool)
  | status
  | mergeWithBase (number : Int)
  | merge (number : Int)
  | resumeCi (number : Int)
deriving DecidableEq, Repr

/-- The file that holds the settings where the command line is silent about it. -/
def defaultConfig : String := "repowarden.toml"

/-- An errand with the file that holds the settings, if one is named, and the verbosity of the log. -/
structure Invocation where
  errand : Errand
  config : Option String := some defaultConfig
  verbosity : Option Verbosity := none
deriving DecidableEq, Repr

/-- Why a command line leads to no invocation. -/
inductive Dismissal where
  | helpWanted
  | rejected
deriving DecidableEq, Repr

/-! ## Verbs -/

/-- The first word of a command line, which says what kind of errand it is. -/
inductive Verb where
  | run
  | plan
  | status
  | mergeWithBase
  | merge
  | resumeCi
deriving DecidableEq, Repr

namespace Verb

def ofWord? : String → Option Verb
  | "run" => some .run
  | "plan" => some .plan
  | "status" => some .status
  | "merge-with-base" => some .mergeWithBase
  | "merge" => some .merge
  | "resume-ci" => some .resumeCi
  | _ => none

def flags (v : Verb) : List Flag :=
  [.help, .config, .verbose] ++ match v with
    | .run => [.once, .dryRun]
    | .plan => [.json]
    | _ => []

def wantsNumber : Verb → Bool
  | .mergeWithBase | .merge | .resumeCi => true
  | _ => false

end Verb

/-! ## Reading the words behind the verb -/

/-- What the words so far said. -/
structure Draft where
  config : Option String := some defaultConfig
  verbosity : Option Verbosity := none
  once : Bool := false
  dryRun : Bool := false
  json : Bool := false
  number : Option Int := none
  /-- Whether the number is still to come. -/
  wantsNumber : Bool

namespace Draft

abbrev Outcome := Except Dismissal Draft

/-- Takes an operand as the number that is still to come. -/
def takeOperand (d : Draft) (text : String) : Outcome :=
  match d.wantsNumber, Text.integer? text.toList with
  | true, some n => .ok { d with number := some n, wantsNumber := false }
  | _, _ => .error .rejected

/-- Takes the argument of the verbosity option; without one the verbosity is high. -/
def takeVerbosity (d : Draft) : Option String → Outcome
  | none => .ok { d with verbosity := some .high }
  | some "low" => .ok { d with verbosity := some .low }
  | some "high" => .ok { d with verbosity := some .high }
  | some _ => .error .rejected

/-- Takes an option that has no argument. -/
def takeSwitch (d : Draft) : Flag → Outcome
  | .once => .ok { d with once := true }
  | .dryRun => .ok { d with dryRun := true }
  | .json => .ok { d with json := true }
  | _ => .error .rejected

/-- An attached argument, of which two hyphens say nothing. -/
def said? (argument : String) : Option String :=
  if argument = "--" then none else some argument

/-- Takes an option with an argument attached to it. -/
def takeAttached (d : Draft) (f : Flag) (argument : String) : Outcome :=
  match f with
  | .config => .ok { d with config := said? argument }
  | .verbose => d.takeVerbosity (said? argument)
  | _ => .error .rejected

/-- Takes the words in turn. A barrier may stand only next to the number. -/
def take (d : Draft) : List Word → Outcome
  | [] => .ok d
  | .flag .help none :: _ => .error .helpWanted
  | .flag f (some argument) :: ws => do (← d.takeAttached f argument).take ws
  | .flag .config none :: .operand path :: ws => take { d with config := some path } ws
  | .flag .verbose none :: .operand word :: ws => do (← d.takeVerbosity (some word)).take ws
  | .flag .verbose none :: ws => do (← d.takeVerbosity none).take ws
  | .flag f none :: ws => do (← d.takeSwitch f).take ws
  | [.operand text, .barrier] => d.takeOperand text
  | .operand text :: ws => do (← d.takeOperand text).take ws
  | [.barrier, .operand text] => d.takeOperand text
  | _ => .error .rejected

/-- The errand of a verb, if the words said all that it takes. -/
def errand? (d : Draft) : Verb → Option Errand
  | .run => some (.run d.once d.dryRun)
  | .plan => some (.plan d.json)
  | .status => some .status
  | .mergeWithBase => d.number.map .mergeWithBase
  | .merge => d.number.map .merge
  | .resumeCi => d.number.map .resumeCi

end Draft

namespace Invocation

def ofVerb (v : Verb) (words : List String) : Except Dismissal Invocation := do
  let d ← Draft.take { wantsNumber := v.wantsNumber } (Word.readAll v.flags words)
  match d.errand? v with
  | some errand => return ⟨errand, d.config, d.verbosity⟩
  | none => .error .rejected

def read : List String → Except Dismissal Invocation
  | [] => .error .rejected
  | word :: words =>
    match Verb.ofWord? word with
    | some v => ofVerb v words
    | none =>
      match Word.read [.help] word with
      | .flag _ none => .error .helpWanted
      | _ => .error .rejected

end Invocation

end RunSteward
