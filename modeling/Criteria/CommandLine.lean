import Criteria.Text.Pieces
/-!
# The command line

The words of the command line: options that every command takes, the two commands with their own
options, and what a command line is refused for. The first refusal in reading order decides. An
option waits for its value until the next word that is no option, and it is settled when the next
option is seen or the words end.
-/
namespace Criteria

inductive Command
  | evaluate (context : Option String) (all trace : Bool)
  | lint
deriving DecidableEq, Repr

/-- What a command line asks for. -/
structure Invocation where
  catalogue : Option String
  rulesets : Option String
  source : String
  command : Command
deriving DecidableEq, Repr

namespace CommandLine

/-- What a word can fill. -/
inductive Slot
  | catalogue
  | rulesets
  | source
  | all
  | trace
  | context
  | help
  | version
deriving DecidableEq, Repr

/-- The commands, and what stands in front of them. -/
inductive Level
  | top
  | evaluate
  | lint
deriving DecidableEq, Repr

namespace Slot

def usage : Slot → String
  | catalogue => "--catalogue <CATALOGUE>"
  | rulesets => "--rulesets <RULESETS>"
  | source => "--source <SOURCE>"
  | all => "--all"
  | trace => "--trace"
  | context => "[CONTEXT]"
  | help => "--help"
  | version => "--version"

def takesValue : Slot → Bool
  | catalogue | rulesets | source | context => true
  | _ => false

def isPath : Slot → Bool
  | catalogue | rulesets | context => true
  | _ => false

end Slot

namespace Level

def option? (level : Level) (name : String) : Option Slot :=
  match name with
  | "catalogue" => some .catalogue
  | "rulesets" => some .rulesets
  | "source" => some .source
  | "help" => some .help
  | "version" => some .version
  | "all" => if level = .evaluate then some .all else none
  | "trace" => if level = .evaluate then some .trace else none
  | _ => none

def programName : Level → String
  | top => "rule-engine"
  | evaluate => "rule-engine-evaluate"
  | lint => "rule-engine-lint"

end Level

inductive UsageError
  | unknownCommand (word : String)
  | unexpectedArgument (word : String)
  | unexpectedValue (value : String) (slot : Slot)
  | missingValue (slot : Slot)
  | repeated (slot : Slot)
  | missingCommand
  | noArguments
deriving DecidableEq, Repr

/-- The message for a refused command line; without any argument there is none. -/
def UsageError.message? : UsageError → Option String
  | unknownCommand word => some s!"unrecognized subcommand '{word}'"
  | unexpectedArgument word => some s!"unexpected argument '{word}' found"
  | unexpectedValue value slot =>
    some s!"unexpected value '{value}' for '{slot.usage}' found; no more were expected"
  | missingValue slot => some s!"a value is required for '{slot.usage}' but none was supplied"
  | repeated slot => some s!"the argument '{slot.usage}' cannot be used multiple times"
  | missingCommand => some "'rule-engine' requires a subcommand but one was not provided"
  | noArguments => none

/-- A command line that asks for nothing to be run. -/
inductive Stop
  | refused (e : UsageError)
  | help
  | version (level : Level)
deriving DecidableEq, Repr

/-- The slots that are filled, and one that is not settled yet, perhaps with its value. `onlyPlain`
says that no more options follow. -/
structure Draft where
  filled : List (Slot × String)
  pending : Option (Slot × Option String)
  onlyPlain : Bool
deriving Inhabited

namespace Draft

def empty : Draft := ⟨[], none, false⟩

def value? (d : Draft) (slot : Slot) : Option String :=
  d.filled.lookup slot

def isWaiting (d : Draft) : Bool :=
  match d.pending with
  | some (_, none) => true
  | _ => false

def hasContext (d : Draft) : Bool :=
  (d.value? .context).isSome || (d.pending.map (·.1)) == some .context

def fill (d : Draft) (slot : Slot) (value : String) : Except Stop Draft :=
  if (d.value? slot).isSome then .error (.refused (.repeated slot))
  else if slot.isPath && value.isEmpty then .error (.refused (.missingValue slot))
  else .ok { d with filled := (slot, value) :: d.filled }

def settle (d : Draft) : Except Stop Draft :=
  match d.pending with
  | none => .ok d
  | some (slot, none) => .error (.refused (.missingValue slot))
  | some (slot, some value) => { d with pending := none }.fill slot value

/-- Take an option that stands alone or comes with its value. -/
def takeOption (d : Draft) (level : Level) (slot : Slot) (attached : Option String) :
    Except Stop Draft :=
  if slot.takesValue then do
    let d ← d.settle
    match attached with
    | some value => d.fill slot value
    | none => return { d with pending := some (slot, none) }
  else
    match attached with
    | some value => .error (.refused (.unexpectedValue value slot))
    | none => do
      let d ← d.settle
      match slot with
      | .help => .error .help
      | .version => .error (.version level)
      | _ => d.fill slot ""

/-- Take an option with two hyphens, which are left out here. -/
def takeLong (d : Draft) (level : Level) (word : List Char) : Except Stop Draft :=
  let (name, attached) := match Text.splitOnce '=' word with
    | some (name, value) => (String.ofList name, some (String.ofList value))
    | none => (String.ofList word, none)
  match level.option? name with
  | some slot => d.takeOption level slot attached
  | none => .error (.refused (.unexpectedArgument ("--" ++ name)))

/-- Take an option with one hyphen and one letter, behind which its value may follow directly or
after an equals sign. -/
def takeShort (d : Draft) (level : Level) (letter : Char) (rest : List Char) :
    Except Stop Draft :=
  match letter, rest with
  | 's', [] => d.takeOption level .source none
  | 's', '=' :: value => d.takeOption level .source (some (String.ofList value))
  | 's', value => d.takeOption level .source (some (String.ofList value))
  | 'h', _ => d.takeOption level .help none
  | 'V', _ => d.takeOption level .version none
  | _, _ => .error (.refused (.unexpectedArgument (String.ofList ['-', letter])))

def isCommand (word : String) : Bool :=
  ["evaluate", "lint", "help"].contains word

def takePlain (d : Draft) (level : Level) (word : String) : Except Stop Draft :=
  match level with
  | .top =>
    .error (.refused (if d.onlyPlain && isCommand word then .unexpectedArgument word
      else .unknownCommand word))
  | .evaluate =>
    if d.hasContext then .error (.refused (.unexpectedArgument word))
    else do
      let d ← d.settle
      return { d with pending := some (.context, some word) }
  | .lint => .error (.refused (.unexpectedArgument word))

def take (d : Draft) (level : Level) (word : String) : Except Stop Draft :=
  if d.onlyPlain then d.takePlain level word
  else
    match word.toList with
    | ['-', '-'] => .ok { d with onlyPlain := true }
    | '-' :: '-' :: rest => d.takeLong level rest
    | '-' :: letter :: rest => d.takeShort level letter rest
    | _ =>
      match d.pending with
      | some (slot, none) => .ok { d with pending := some (slot, some word) }
      | _ => d.takePlain level word

def takeAll (d : Draft) (level : Level) (words : List String) : Except Stop Draft := do
  let d ← words.foldlM (fun d word => d.take level word) d
  d.settle

/-- Take words up to the first command. -/
def takeFront : Draft → List String → Except Stop (Draft × Option (String × List String))
  | d, [] => .ok (d, none)
  | d, word :: rest =>
    if !d.onlyPlain && !d.isWaiting && isCommand word then .ok (d, some (word, rest))
    else do
      let d ← d.take .top word
      takeFront d rest

end Draft

/-- What is said about the commands that follow `help`. -/
def helpOn : List String → Stop
  | [] => .help
  | word :: rest =>
    if !Draft.isCommand word then .refused (.unknownCommand word)
    else
      match rest with
      | [] => .help
      | next :: _ => .refused (.unknownCommand next)

/-- The invocation of a command. Its own options go before those in front of it. -/
def invocation (front own : Draft) (command : Command) : Invocation :=
  let value? (slot : Slot) : Option String := (own.value? slot).or (front.value? slot)
  { catalogue := value? .catalogue
    rulesets := value? .rulesets
    source := (value? .source).getD "default"
    command := command }

def parse (words : List String) : Except Stop Invocation := do
  match ← Draft.takeFront .empty words with
  | (front, none) =>
    let front ← front.settle
    .error (.refused (if front.filled.isEmpty then .noArguments else .missingCommand))
  | (front, some ("evaluate", rest)) =>
    let own ← Draft.empty.takeAll .evaluate rest
    let front ← front.settle
    return invocation front own (.evaluate (own.value? .context) (own.value? .all).isSome
      (own.value? .trace).isSome)
  | (front, some ("lint", rest)) =>
    let own ← Draft.empty.takeAll .lint rest
    let front ← front.settle
    return invocation front own .lint
  | (_, some (_, rest)) => .error (helpOn rest)

end CommandLine
end Criteria
