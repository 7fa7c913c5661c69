import LatencyMeter.Report
import LatencyMeter.Settings.Check

/-!
# Settings of a round-trip measurement

A measurement sends a number of messages of one length at one rate, over datagrams
or inside the process, and records the round trips in a histogram. Untimed
messages may come before the measured ones: one to prime the path, followed by a
pause, and the rest at a rate of their own.
-/

namespace LatencyMeter

/-- One end of a datagram path. -/
structure Endpoint where
  /-- The local address to receive on. -/
  bind : SocketAddress
  /-- Where datagrams are sent, which may be a group. -/
  dest : SocketAddress
  /-- The interface for groups. -/
  interface : Option Ipv4
  /-- The group to receive from. -/
  joinGroup : Option Ipv4
  /-- How many networks a datagram to a group may cross. -/
  multicastTtl : UInt32
  deriving DecidableEq

/-- How many networks a datagram to a group may cross, unless told otherwise. -/
def Endpoint.defaultTtl : UInt32 := 15

/-- How a measurement reaches the peer that echoes. -/
inductive PingPath
  | datagrams (endpoint : Endpoint)
  | loopback
  deriving DecidableEq

/-- The text of a path. -/
def PingPath.text : PingPath -> String
  | .datagrams endpoint => "udp:" ++ endpoint.dest.text
  | .loopback => "loopback"

/-- The settings of a measurement. -/
structure PingSettings where
  /-- Messages per second. -/
  rate : UInt64
  /-- Measured messages. -/
  count : UInt64
  /-- The length of a message in bytes. -/
  length : UInt64
  geometry : Geometry
  warmup : Warmup
  /-- The core of the sending thread. -/
  senderCpu : Option UInt64
  /-- The core of the receive thread. -/
  receiverCpu : Option UInt64
  /-- How long to wait after the last message. -/
  linger : Duration
  /-- How long to pause after the priming message. -/
  pause : Duration
  /-- A fixed delay between messages in place of the rate. -/
  delay : Option Duration
  path : PingPath
  deriving DecidableEq

/-- What the command line says about a measurement. -/
structure PingOptions where
  rate : UInt64
  count : UInt64
  length : UInt64
  geometry : Geometry
  warmup : Warmup
  delay : Option Duration
  senderCpu : Option UInt64
  receiverCpu : Option UInt64
  lingerMillis : UInt64
  pause : Duration
  dest : SocketAddress
  bind : SocketAddress
  interface : Option Ipv4
  join : Option Ipv4
  loopback : Bool
  outputFile : Option String
  deriving DecidableEq

namespace PingOptions

/-- The path that the options ask for. -/
def path (options : PingOptions) : PingPath :=
  if options.loopback then
    .loopback
  else
    .datagrams
      ⟨options.bind, options.dest, options.interface, options.join, Endpoint.defaultTtl⟩

/-- Refuse the first option on the load that a measurement could not use. -/
def checkLoad (options : PingOptions) : Except ConfigFault Unit := do
  Check.positive "rate" options.rate
  Check.positive "number of messages" options.count
  Check.messageLength options.length
  Check.geometry options.geometry
  Check.warmup options.warmup

/-- Refuse the first option that a measurement could not use. -/
def check (options : PingOptions) : Except ConfigFault Unit := do
  options.checkLoad
  Check.optionalCpu options.senderCpu
  Check.optionalCpu options.receiverCpu

/-- The settings that the options ask for. -/
def settings (options : PingOptions) : Except ConfigFault PingSettings := do
  options.check
  return {
    rate := options.rate
    count := options.count
    length := options.length
    geometry := options.geometry
    warmup := options.warmup
    senderCpu := options.senderCpu
    receiverCpu := options.receiverCpu
    linger := Duration.ofMillis options.lingerMillis
    pause := options.pause
    delay := options.delay
    path := options.path }

end PingOptions

namespace PingSettings

/-- The named values of the parameter line. -/
def fields (settings : PingSettings) : List Report.Field :=
  [ ("o_affinity_src", Report.optionalCpu settings.senderCpu),
    ("o_affinity_rcv", Report.optionalCpu settings.receiverCpu),
    ("o_histogram", settings.geometry.text),
    ("o_linger_ms", String.ofList (Nat.toDigits 10 settings.linger.toMillis)),
    ("o_msg_len", wordText settings.length),
    ("o_num_msgs", wordText settings.count),
    ("o_rate", wordText settings.rate),
    ("o_warmup", settings.warmup.text),
    ("o_transport", settings.path.text) ]

/-- The parameter line. -/
def parameters (settings : PingSettings) : String :=
  Report.parameters settings.fields

end PingSettings
end LatencyMeter
