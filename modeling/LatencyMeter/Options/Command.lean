import LatencyMeter.Options
import LatencyMeter.Settings.Jitter
import LatencyMeter.Settings.Pong

/-!
# Commands of the tool

The tool has three commands, each with a table of options, and a fourth that asks
for help. Verbosity may be asked for before and behind the name of a command; what
is asked for behind it counts.
-/

namespace LatencyMeter

/-- What the tool is asked to do. -/
inductive Command
  | ping (options : PingOptions)
  | pong (options : PongOptions)
  | jitter (options : JitterOptions)

/-- A command and how talkative the tool is to be. -/
structure Invocation where
  verbosity : Nat
  command : Command

namespace Command

open Options

/-- The option for verbosity. -/
def verboseRule : Rule := ⟨"verbose", some 'v', .count⟩

/-- The option for help. -/
def helpRule : Rule := ⟨"help", some 'h', .help⟩

/-- The options before the name of a command. -/
def toolRules : List Rule :=
  [verboseRule, helpRule, ⟨"version", some 'V', .version⟩]

/-- An option that has to be given. -/
def required (long : String) (letter : Char) (kind : ValueKind) : Rule :=
  ⟨long, some letter, .value kind true⟩

/-- An option that may be given. -/
def optional (long : String) (letter : Option Char) (kind : ValueKind) : Rule :=
  ⟨long, letter, .value kind false⟩

/-- The options of a measurement. -/
def pingRules : List Rule :=
  [ required "rate" 'r' .word,
    required "num-msgs" 'n' .word,
    required "msg-len" 'm' .word,
    required "histogram" 'H' .geometry,
    optional "warmup" (some 'w') .warmup,
    optional "send-delay" none .duration,
    optional "affinity-src" (some 'A') .word,
    optional "affinity-rcv" (some 'a') .word,
    optional "linger-ms" (some 'l') .word,
    optional "resolution-pause" none .duration,
    optional "dest" none .socketAddress,
    optional "bind" none .socketAddress,
    optional "interface" none .ipv4,
    optional "join" none .ipv4,
    ⟨"loopback", none, .flag⟩,
    optional "output-file" (some 'o') .path,
    verboseRule,
    helpRule ]

/-- The options of a reflector. -/
def pongRules : List Rule :=
  [ optional "bind" none .socketAddress,
    optional "dest" none .socketAddress,
    optional "interface" none .ipv4,
    optional "join" none .ipv4,
    optional "affinity-rcv" (some 'a') .word,
    ⟨"exit-on-eos", some 'E', .flag⟩,
    verboseRule,
    helpRule ]

/-- The options of a jitter run. -/
def jitterRules : List Rule :=
  [ required "histogram" 'H' .geometry,
    optional "affinity-cpu" (some 'a') .word,
    optional "group" (some 'g') .ipv4,
    optional "interface" (some 'i') .ipv4,
    optional "duration" (some 'd') .duration,
    optional "probe-warmup" none .duration,
    optional "probe-window" none .duration,
    verboseRule,
    helpRule ]

/-- The names of the commands that run something. -/
def names : List String := ["ping", "pong", "jitter"]

/-- The name of the command that asks for help. -/
def helpName : String := "help"

/-- The word given for an option. -/
def word? (taken : Taken) (long : String) : Option UInt64 :=
  match taken.value? long with
  | some (.word value) => some value
  | _ => none

/-- The geometry given for an option. -/
def geometry? (taken : Taken) (long : String) : Option Geometry :=
  match taken.value? long with
  | some (.geometry value) => some value
  | _ => none

/-- The warmup given for an option. -/
def warmup? (taken : Taken) (long : String) : Option Warmup :=
  match taken.value? long with
  | some (.warmup value) => some value
  | _ => none

/-- The duration given for an option. -/
def duration? (taken : Taken) (long : String) : Option Duration :=
  match taken.value? long with
  | some (.duration value) => some value
  | _ => none

/-- The socket address given for an option. -/
def socketAddress? (taken : Taken) (long : String) : Option SocketAddress :=
  match taken.value? long with
  | some (.socketAddress value) => some value
  | _ => none

/-- The address given for an option. -/
def ipv4? (taken : Taken) (long : String) : Option Ipv4 :=
  match taken.value? long with
  | some (.ipv4 value) => some value
  | _ => none

/-- The path given for an option. -/
def path? (taken : Taken) (long : String) : Option String :=
  match taken.value? long with
  | some (.path value) => some value
  | _ => none

/-- The address of this host on its loopback interface. -/
def localHost : Ipv4 := ⟨127, 0, 0, 1⟩

/-- The group that probe messages are sent to, unless told otherwise. -/
def probeGroup : Ipv4 := ⟨239, 101, 3, 1⟩

/-- Refuse a command whose required options were not all given. -/
def complete (rules : List Rule) (taken : Taken) (command : Option Command) :
    Except Fault Command :=
  match command with
  | some command => .ok command
  | none => .error (.missingOptions (missing rules taken))

/-- The measurement that options ask for, if all required ones are given. -/
def pingOf? (taken : Taken) : Option Command := do
  let rate <- word? taken "rate"
  let count <- word? taken "num-msgs"
  let length <- word? taken "msg-len"
  let geometry <- geometry? taken "histogram"
  return .ping {
    rate := rate
    count := count
    length := length
    geometry := geometry
    warmup := (warmup? taken "warmup").getD ⟨0, 0⟩
    delay := duration? taken "send-delay"
    senderCpu := word? taken "affinity-src"
    receiverCpu := word? taken "affinity-rcv"
    lingerMillis := (word? taken "linger-ms").getD 1000
    pause := (duration? taken "resolution-pause").getD (.ofMillis 1000)
    dest := (socketAddress? taken "dest").getD (.v4 localHost 12000)
    bind := (socketAddress? taken "bind").getD (.v4 Ipv4.unspecified 12001)
    interface := ipv4? taken "interface"
    join := ipv4? taken "join"
    loopback := taken.flags.contains "loopback"
    outputFile := path? taken "output-file" }

/-- The reflector that options ask for. -/
def pongOf (taken : Taken) : Command :=
  .pong {
    bind := (socketAddress? taken "bind").getD (.v4 Ipv4.unspecified 12000)
    dest := (socketAddress? taken "dest").getD (.v4 localHost 12001)
    interface := ipv4? taken "interface"
    join := ipv4? taken "join"
    receiverCpu := word? taken "affinity-rcv"
    exitOnEnd := taken.flags.contains "exit-on-eos" }

/-- The jitter run that options ask for, if all required ones are given. -/
def jitterOf? (taken : Taken) : Option Command := do
  let geometry <- geometry? taken "histogram"
  return .jitter {
    geometry := geometry
    cpu := word? taken "affinity-cpu"
    group := (ipv4? taken "group").getD probeGroup
    interface := ipv4? taken "interface"
    duration := (duration? taken "duration").getD (.ofMillis 2000)
    probeWarmup := (duration? taken "probe-warmup").getD (.ofMillis 100)
    probeWindow := (duration? taken "probe-window").getD (.ofMillis 1000) }

/-- The rules of a command by its name. -/
def rulesOf (name : String) : List Rule :=
  if name = "ping" then pingRules else if name = "pong" then pongRules else jitterRules

/-- The command of a name that options ask for, if all required ones are given. -/
def ofTaken? (name : String) (taken : Taken) : Option Command :=
  if name = "ping" then pingOf? taken
  else if name = "pong" then some (pongOf taken)
  else jitterOf? taken

/-- Follow the names behind the command that asks for help. -/
def helpFor : List String -> Fault
  | [] => .helpWanted
  | name :: rest =>
      if name = helpName ∨ names.contains name then
        match rest with
        | [] => .helpWanted
        | unknown :: _ => .unknownCommand unknown
      else
        .unknownCommand name

/-- The largest verbosity that is told apart. -/
def maxVerbosity : Nat := 255

/-- Read a command line. -/
def parse (arguments : List String) : Except Fault Invocation := do
  let (tool, found) <- takeArguments toolRules (names ++ [helpName]) .nothing arguments
  match found with
  | none => throw (if tool.count = 0 then .nothingGiven else .missingCommand)
  | some (name, rest) =>
      if name = helpName then
        throw (helpFor rest)
      else
        let rules := rulesOf name
        let (taken, _) <- takeArguments rules [] .nothing rest
        let command <- complete rules taken (ofTaken? name taken)
        let count := if taken.count = 0 then tool.count else taken.count
        return ⟨min count maxVerbosity, command⟩

end Command
end LatencyMeter
