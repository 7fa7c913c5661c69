import LatencyMeter.Address.Parser
import LatencyMeter.Duration.Parser
import LatencyMeter.Settings.Pair

/-!
# Options of a command line

Options are described by a table of rules, and arguments are taken one after the
other by these rules. An option has a long name and often a letter; letters may be
joined behind one dash. The value of an option is the rest of its argument, behind
an equals sign if there is one, or else the next argument that is not an option.
A value that stands in an argument of its own is looked at only when the next
option or the end of the arguments is reached.

Behind `--` nothing is an option. A plain argument is the name of a command where
one is expected, and nowhere else allowed.
-/

namespace LatencyMeter
namespace Options

/-- What kind of value an option takes. -/
inductive ValueKind
  | word
  | geometry
  | warmup
  | duration
  | socketAddress
  | ipv4
  | path
  deriving DecidableEq, Repr

/-- The value of an option. -/
inductive Value
  | word (value : UInt64)
  | geometry (value : Geometry)
  | warmup (value : Warmup)
  | duration (value : Duration)
  | socketAddress (value : SocketAddress)
  | ipv4 (value : Ipv4)
  | path (value : String)

/-- What is wrong with the value of an option. -/
inductive ValueFault
  | empty
  | invalid (message : String)
  deriving DecidableEq, Repr

/-- Read the value of an option. -/
def ValueKind.read (kind : ValueKind) (text : String) : Except ValueFault Value :=
  match kind with
  | .word =>
      match Decimal.natural? Word.limit text.toList with
      | .ok value => .ok (.word (UInt64.ofNat value))
      | .error fault => .error (.invalid fault.message)
  | .geometry =>
      match Geometry.parse text with
      | .ok value => .ok (.geometry value)
      | .error fault => .error (.invalid fault.message)
  | .warmup =>
      match Warmup.parse text with
      | .ok value => .ok (.warmup value)
      | .error fault => .error (.invalid fault.message)
  | .duration =>
      match Duration.parse text.toList with
      | .ok value => .ok (.duration value)
      | .error fault => .error (.invalid fault.message)
  | .socketAddress =>
      match SocketAddress.parse? text.toList with
      | some value => .ok (.socketAddress value)
      | none => .error (.invalid "invalid socket address syntax")
  | .ipv4 =>
      match Ipv4.parse? text.toList with
      | some value => .ok (.ipv4 value)
      | none => .error (.invalid "invalid IPv4 address syntax")
  | .path => if text.isEmpty then .error .empty else .ok (.path text)

/-- What an option does. -/
inductive Effect
  /-- It is given or not. -/
  | flag
  /-- Its occurrences are counted. -/
  | count
  /-- It asks for help. -/
  | help
  /-- It asks for the version. -/
  | version
  /-- It takes a value. -/
  | value (kind : ValueKind) (required : Bool)
  deriving DecidableEq, Repr

/-- One option. -/
structure Rule where
  long : String
  letter : Option Char
  effect : Effect
  deriving DecidableEq, Repr

/-- How an option is named in messages. -/
def Rule.display (rule : Rule) : String :=
  match rule.effect with
  | .value _ _ =>
      let placeholder :=
        rule.long.toList.map fun character => if character = '-' then '_' else character.toUpper
      "--" ++ rule.long ++ " <" ++ String.ofList placeholder ++ ">"
  | .count => "--" ++ rule.long ++ "..."
  | _ => "--" ++ rule.long

/-- What is wrong with a command line, or what it asks for in place of a run. -/
inductive Fault
  | unknownArgument (argument : String)
  | unknownCommand (name : String)
  | missingValue (option : String)
  | unexpectedValue (option : String)
  | invalidValue (option message : String)
  | repeated (option : String)
  | missingOptions (options : List String)
  | missingCommand
  | nothingGiven
  | helpWanted
  | versionWanted
  deriving DecidableEq, Repr

/-- What has been taken from the arguments so far. -/
structure Taken where
  values : List (String × Value)
  flags : List String
  count : Nat
  /-- The last option, while its value is awaited or not yet looked at. -/
  pending : Option (Rule × Option String)

namespace Taken

/-- Nothing has been taken. -/
def nothing : Taken := ⟨[], [], 0, none⟩

/-- The value given for an option. -/
def value? (taken : Taken) (long : String) : Option Value :=
  taken.values.lookup long

/-- Take the value of an option. -/
def addValue (taken : Taken) (rule : Rule) (kind : ValueKind) (text : String) :
    Except Fault Taken :=
  if (taken.value? rule.long).isSome then
    .error (.repeated rule.display)
  else
    match kind.read text with
    | .ok value => .ok { taken with values := taken.values ++ [(rule.long, value)] }
    | .error .empty => .error (.missingValue rule.display)
    | .error (.invalid message) => .error (.invalidValue rule.display message)

/-- Look at the value of the last option. -/
def settle (taken : Taken) : Except Fault Taken :=
  match taken.pending with
  | none => .ok taken
  | some (rule, none) => .error (.missingValue rule.display)
  | some (rule, some text) =>
      match rule.effect with
      | .value kind _ => { taken with pending := none }.addValue rule kind text
      | _ => .ok { taken with pending := none }

/-- Whether the last option awaits its value. -/
def awaits (taken : Taken) : Bool :=
  match taken.pending with
  | some (_, none) => true
  | _ => false

/-- Take an option without a value. -/
def addFlag (taken : Taken) (rule : Rule) : Except Fault Taken := do
  let taken <- taken.settle
  match rule.effect with
  | .flag =>
      if taken.flags.contains rule.long then
        throw (.repeated rule.display)
      else
        return { taken with flags := rule.long :: taken.flags }
  | .count => return { taken with count := taken.count + 1 }
  | .help => throw .helpWanted
  | .version => throw .versionWanted
  | .value _ _ => return { taken with pending := some (rule, none) }

/-- Take an option with its value in the same argument. -/
def addAttached (taken : Taken) (rule : Rule) (text : String) : Except Fault Taken := do
  match rule.effect with
  | .value kind _ => (← taken.settle).addValue rule kind text
  | _ => throw (.unexpectedValue rule.display)

end Taken

/-- The parts of a text before and behind its first equals sign. -/
def splitEquals : List Char -> List Char × Option (List Char)
  | [] => ([], none)
  | '=' :: rest => ([], some rest)
  | character :: rest =>
      let (name, value) := splitEquals rest
      (character :: name, value)

/-- Take an argument that begins with two dashes, without them. -/
def takeLong (rules : List Rule) (taken : Taken) (argument : List Char) :
    Except Fault Taken :=
  let (name, value) := splitEquals argument
  let name := String.ofList name
  match rules.find? fun rule => rule.long == name with
  | none => .error (.unknownArgument ("--" ++ name))
  | some rule =>
      match value with
      | none => taken.addFlag rule
      | some value => taken.addAttached rule (String.ofList value)

/-- Take the letters behind one dash. -/
def takeLetters (rules : List Rule) (taken : Taken) : List Char -> Except Fault Taken
  | [] => .ok taken
  | letter :: rest =>
      match rules.find? fun rule => rule.letter == some letter with
      | none => .error (.unknownArgument (String.ofList ['-', letter]))
      | some rule =>
          match rule.effect, rest with
          | .value _ _, [] => taken.addFlag rule
          | .value _ _, '=' :: value => taken.addAttached rule (String.ofList value)
          | .value _ _, value => taken.addAttached rule (String.ofList value)
          | _, _ => do
              let taken <- taken.addFlag rule
              takeLetters rules taken rest

/-- The fault of a plain argument that is not expected. -/
def unexpected (commands : List String) (trailing : Bool) (argument : String) : Fault :=
  if commands.isEmpty ∨ (trailing ∧ commands.contains argument) then
    .unknownArgument argument
  else
    .unknownCommand argument

/-- Take arguments up to the name of a command, if one is expected, or to their end. -/
def takeArguments (rules : List Rule) (commands : List String) :
    Taken -> List String -> Except Fault (Taken × Option (String × List String))
  | taken, [] => do
      let taken <- taken.settle
      return (taken, none)
  | taken, argument :: rest =>
      if !taken.awaits && commands.contains argument then
        .ok (taken, some (argument, rest))
      else
        match argument.toList with
        | ['-', '-'] =>
            match rest with
            | [] => do
                let taken <- taken.settle
                return (taken, none)
            | plain :: _ => .error (unexpected commands true plain)
        | '-' :: '-' :: long => do
            let taken <- takeLong rules taken long
            takeArguments rules commands taken rest
        | '-' :: letter :: letters => do
            let taken <- takeLetters rules taken (letter :: letters)
            takeArguments rules commands taken rest
        | _ =>
            match taken.pending with
            | some (rule, none) =>
                takeArguments rules commands
                  { taken with pending := some (rule, some argument) } rest
            | _ => .error (unexpected commands false argument)

/-- The required options that were not given, in the order of the table. -/
def missing (rules : List Rule) (taken : Taken) : List String :=
  (rules.filter fun rule =>
    match rule.effect with
    | .value _ true => (taken.value? rule.long).isNone
    | _ => false).map Rule.display

end Options
end LatencyMeter
