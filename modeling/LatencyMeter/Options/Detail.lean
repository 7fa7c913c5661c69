import LatencyMeter.Duration.Format
import LatencyMeter.Options.Command
import LatencyMeter.Text.Quoted

/-!
# Command lines in diagnostics

The most talkative diagnostics show what the tool was asked to do: every option by
name, with the value that it was given or has by default.
-/

namespace LatencyMeter
namespace Options.Detail

/-- Named values between braces. -/
def record (name : String) (fields : List (String × String)) : String :=
  name ++ " \x7b " ++
    String.intercalate ", " (fields.map fun (field, value) => field ++ ": " ++ value) ++ " \x7d"

/-- A value that may be absent. -/
def optional (text : α -> String) (value : Option α) : String :=
  match value with
  | none => "None"
  | some value => "Some(" ++ text value ++ ")"

/-- A truth value. -/
def flag (value : Bool) : String := if value then "true" else "false"

/-- The geometry of a histogram. -/
def geometry (geometry : Geometry) : String :=
  record "HistogramSpec"
    [ ("num_buckets", wordText geometry.bucketCount),
      ("ns_per_bucket", wordText geometry.bucketWidth) ]

/-- A warmup. -/
def warmup (warmup : Warmup) : String :=
  record "WarmupSpec" [("loops", wordText warmup.loops), ("rate", wordText warmup.rate)]

/-- The options of a measurement. -/
def ping (options : PingOptions) : String :=
  record "PingArgs"
    [ ("rate", wordText options.rate),
      ("num_msgs", wordText options.count),
      ("msg_len", wordText options.length),
      ("histogram", geometry options.geometry),
      ("warmup", warmup options.warmup),
      ("send_delay", optional Duration.exactText options.delay),
      ("affinity_src", optional wordText options.senderCpu),
      ("affinity_rcv", optional wordText options.receiverCpu),
      ("linger_ms", wordText options.lingerMillis),
      ("resolution_pause", options.pause.exactText),
      ("dest", options.dest.text),
      ("bind", options.bind.text),
      ("interface", optional Ipv4.text options.interface),
      ("join", optional Ipv4.text options.join),
      ("loopback", flag options.loopback),
      ("output_file", optional Text.quoted options.outputFile) ]

/-- The options of a reflector. -/
def pong (options : PongOptions) : String :=
  record "PongArgs"
    [ ("bind", options.bind.text),
      ("dest", options.dest.text),
      ("interface", optional Ipv4.text options.interface),
      ("join", optional Ipv4.text options.join),
      ("affinity_rcv", optional wordText options.receiverCpu),
      ("exit_on_eos", flag options.exitOnEnd) ]

/-- The options of a jitter run. -/
def jitter (options : JitterOptions) : String :=
  record "JitterArgs"
    [ ("histogram", geometry options.geometry),
      ("affinity_cpu", optional wordText options.cpu),
      ("group", options.group.text),
      ("interface", optional Ipv4.text options.interface),
      ("duration", options.duration.exactText),
      ("probe_warmup", options.probeWarmup.exactText),
      ("probe_window", options.probeWindow.exactText) ]

/-- A command with its options. -/
def command : Command -> String
  | .ping options => "Ping(" ++ ping options ++ ")"
  | .pong options => "Pong(" ++ pong options ++ ")"
  | .jitter options => "Jitter(" ++ jitter options ++ ")"

/-- The diagnostic that shows a command line. -/
def entry (invocation : Invocation) : Log.Entry where
  level := .debug
  message :=
    "Configuration: " ++
      record "Args"
        [ ("verbose", String.ofList (Nat.toDigits 10 invocation.verbosity)),
          ("command", command invocation.command) ]
  fields := []

end Options.Detail
end LatencyMeter
