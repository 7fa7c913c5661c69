import LatencyMeter.Options.Command

/-!
# How to use the tool

The texts for someone who asks for help, and for someone whose command line the tool
cannot use. The lists of options are written from the tables by which they are read.
-/

namespace LatencyMeter
namespace Options

/-- The line of an option. -/
def Rule.line (rule : Rule) : String :=
  let letter :=
    match rule.letter with
    | some letter => String.ofList ['-', letter, ',', ' ']
    | none => "    "
  "  " ++ letter ++ rule.display ++ "\n"

/-- Whether an option has to be given. -/
def Rule.isRequired (rule : Rule) : Bool :=
  match rule.effect with
  | .value _ required => required
  | _ => false

/-- The line that shows how a command is written. -/
def usageLine (tool name : String) (rules : List Rule) : String :=
  let required := (rules.filter Rule.isRequired).map fun rule => " " ++ rule.display
  tool ++ " " ++ name ++ " [OPTIONS]" ++ String.join required ++ "\n"

/-- The section on one command. -/
def commandText (tool name purpose : String) (rules : List Rule) : String :=
  "\n" ++ purpose ++ ":\n  " ++ usageLine tool name rules ++ String.join (rules.map Rule.line)

/-- The help text. -/
def helpText (tool : String) : String :=
  "Usage: " ++ tool ++ " [OPTIONS] <COMMAND>\n" ++
    String.join (Command.toolRules.map Rule.line) ++
    commandText tool "ping" "Measure round trips" Command.pingRules ++
    commandText tool "pong" "Reflect messages" Command.pongRules ++
    commandText tool "jitter" "Measure the clock" Command.jitterRules

/-- What is wrong with a command line. -/
def Fault.message : Fault -> String
  | .unknownArgument argument => "unexpected argument '" ++ argument ++ "' found"
  | .unknownCommand name => "unrecognized subcommand '" ++ name ++ "'"
  | .missingValue option => "a value is required for '" ++ option ++ "' but none was supplied"
  | .unexpectedValue option => "unexpected value for '" ++ option ++ "' found"
  | .invalidValue option message => "invalid value for '" ++ option ++ "': " ++ message
  | .repeated option => "the argument '" ++ option ++ "' cannot be used multiple times"
  | .missingOptions options =>
      "the following required arguments were not provided: " ++ String.intercalate ", " options
  | .missingCommand => "a subcommand is required but one was not provided"
  | .nothingGiven => "a subcommand is required but one was not provided"
  | .helpWanted => "help was asked for"
  | .versionWanted => "the version was asked for"

end Options
end LatencyMeter
