import LatencyMeter.Address.Parser
import LatencyMeter.Document.Reader
import LatencyMeter.Settings.Jitter
import LatencyMeter.Settings.Pong

/-!
# Documents of settings

The document of a value, the reader of such documents, and the value that a
document read in canonical form stands for, side by side for each type of value
that settings consist of.
-/

namespace LatencyMeter
namespace Document

/-- The values of an object, without their names. -/
def values : Document -> List Document
  | .object members => members.map Prod.snd
  | _ => []

/-- The word that a document stands for. -/
def word? : Document -> Option UInt64
  | .integer value => some (UInt64.ofNat value.toNat)
  | _ => none

/-- The signed word that a document stands for. -/
def signed? : Document -> Option Int64
  | .integer value => some (Int64.ofInt value)
  | _ => none

/-- The truth value that a document stands for. -/
def bool? : Document -> Option Bool
  | .bool value => some value
  | _ => none

/-- The text that a document stands for. -/
def string? : Document -> Option String
  | .string text => some text
  | _ => none

/-- The double that a document stands for. -/
def number? : Document -> Option Float
  | .number value => some value
  | _ => none

/-- The value that may be absent for which a document stands. -/
def optional? (inner : Document -> Option α) : Document -> Option (Option α)
  | .null => some none
  | document => (inner document).map some

/-- The document of a value that may be absent. -/
def ofOption (inner : α -> Document) : Option α -> Document
  | none => .null
  | some value => inner value

/-- Read a whole text and take the value that its document stands for. -/
def readAs (reader : Reader) (value? : Document -> Option α) (text : String) :
    Except DocumentFault α := do
  let document <- read reader text
  match value? document with
  | some value => return value
  | none => throw .unsuitable

end Document

open Document

/-! ## Parts of settings -/

/-- The document of a socket address. -/
def SocketAddress.document (address : SocketAddress) : Document := .string address.text

/-- Socket addresses are read in any spelling. -/
def SocketAddress.reader : Reader :=
  stringReader fun characters => (SocketAddress.parse? characters).map SocketAddress.chars

/-- The socket address that a document stands for. -/
def SocketAddress.ofDocument? (document : Document) : Option SocketAddress := do
  let text <- document.string?
  SocketAddress.parse? text.toList

/-- The document of an address. -/
def Ipv4.document (address : Ipv4) : Document := .string address.text

/-- Addresses have one spelling. -/
def Ipv4.reader : Reader :=
  stringReader fun characters => (Ipv4.parse? characters).map Ipv4.chars

/-- The address that a document stands for. -/
def Ipv4.ofDocument? (document : Document) : Option Ipv4 := do
  let text <- document.string?
  Ipv4.parse? text.toList

/-- The document of a duration. -/
def Duration.document (duration : Duration) : Document :=
  .object
    [ ("secs", .word duration.seconds),
      ("nanos", .integer duration.nanoseconds.toNat) ]

/-- Nanoseconds beyond a second are carried into the seconds, which have to fit into a word. -/
def Duration.settle : List Document -> Option (List Document)
  | [.integer seconds, .integer nanoseconds] =>
      let carried := seconds + nanoseconds / nanosPerSecond
      if carried ≤ Word.limit then
        some [.integer carried, .integer (nanoseconds % nanosPerSecond)]
      else
        none
  | _ => none

/-- Durations consist of seconds and nanoseconds and nothing else. -/
def Duration.reader : Reader :=
  recordReader
    { members :=
        [ .required "secs" wordReader,
          .required "nanos" (integerReader 0 4294967295) ]
      closed := true
      settle := Duration.settle }

/-- The duration that a document stands for. -/
def Duration.ofDocument? (document : Document) : Option Duration :=
  match document.values with
  | [seconds, .integer nanoseconds] => do
      let seconds <- seconds.word?
      let nanoseconds := UInt32.ofNat nanoseconds.toNat
      if inSecond : nanoseconds.toNat < nanosPerSecond then
        some ⟨seconds, nanoseconds, inSecond⟩
      else
        none
  | _ => none

/-- The document of a geometry. -/
def Geometry.document (geometry : Geometry) : Document :=
  .object
    [ ("num_buckets", .word geometry.bucketCount),
      ("ns_per_bucket", .word geometry.bucketWidth) ]

/-- The reader of geometries. -/
def Geometry.reader : Reader :=
  recordReader
    (.plain
      [ .required "num_buckets" wordReader,
        .required "ns_per_bucket" wordReader ])

/-- The geometry that a document stands for. -/
def Geometry.ofDocument? (document : Document) : Option Geometry :=
  match document.values with
  | [count, width] => do
      let count <- count.word?
      let width <- width.word?
      return ⟨count, width⟩
  | _ => none

/-- The document of a warmup. -/
def Warmup.document (warmup : Warmup) : Document :=
  .object
    [ ("loops", .word warmup.loops),
      ("rate", .word warmup.rate) ]

/-- The reader of warmups. -/
def Warmup.reader : Reader :=
  recordReader
    (.plain
      [ .required "loops" wordReader,
        .required "rate" wordReader ])

/-- The warmup that a document stands for. -/
def Warmup.ofDocument? (document : Document) : Option Warmup :=
  match document.values with
  | [loops, rate] => do
      let loops <- loops.word?
      let rate <- rate.word?
      return ⟨loops, rate⟩
  | _ => none

/-- The document of one end of a datagram path. -/
def Endpoint.document (endpoint : Endpoint) : Document :=
  .object
    [ ("bind", endpoint.bind.document),
      ("dest", endpoint.dest.document),
      ("interface", ofOption Ipv4.document endpoint.interface),
      ("join_group", ofOption Ipv4.document endpoint.joinGroup),
      ("multicast_ttl", .integer endpoint.multicastTtl.toNat) ]

/-- The reader of ends of a datagram path. -/
def Endpoint.reader : Reader :=
  recordReader
    (.plain
      [ .required "bind" SocketAddress.reader,
        .required "dest" SocketAddress.reader,
        .nullable "interface" Ipv4.reader,
        .nullable "join_group" Ipv4.reader,
        .required "multicast_ttl" (integerReader 0 4294967295) ])

/-- The end of a datagram path that a document stands for. -/
def Endpoint.ofDocument? (document : Document) : Option Endpoint :=
  match document.values with
  | [bind, dest, interface, join, .integer ttl] => do
      let bind <- SocketAddress.ofDocument? bind
      let dest <- SocketAddress.ofDocument? dest
      let interface <- optional? Ipv4.ofDocument? interface
      let join <- optional? Ipv4.ofDocument? join
      return ⟨bind, dest, interface, join, UInt32.ofNat ttl.toNat⟩
  | _ => none

/-- The document of a path. -/
def PingPath.document : PingPath -> Document
  | .datagrams endpoint => .object [("Udp", endpoint.document)]
  | .loopback => .string "Loopback"

/-- The reader of paths. -/
def PingPath.reader : Reader :=
  choiceReader [⟨"Udp", some Endpoint.reader⟩, ⟨"Loopback", none⟩]

/-- The path that a document stands for. -/
def PingPath.ofDocument? : Document -> Option PingPath
  | .object [(_, content)] => (Endpoint.ofDocument? content).map PingPath.datagrams
  | .string _ => some .loopback
  | _ => none

/-! ## Settings -/

/-- The document of the settings of a measurement. -/
def PingSettings.document (settings : PingSettings) : Document :=
  .object
    [ ("rate", .word settings.rate),
      ("num_msgs", .word settings.count),
      ("msg_len", .word settings.length),
      ("histogram", settings.geometry.document),
      ("warmup", settings.warmup.document),
      ("affinity_src", ofOption Document.word settings.senderCpu),
      ("affinity_rcv", ofOption Document.word settings.receiverCpu),
      ("linger", settings.linger.document),
      ("resolution_pause", settings.pause.document),
      ("send_delay", ofOption Duration.document settings.delay),
      ("transport", settings.path.document) ]

/-- The reader of the settings of a measurement. -/
def PingSettings.reader : Reader :=
  recordReader
    (.plain
      [ .required "rate" wordReader,
        .required "num_msgs" wordReader,
        .required "msg_len" wordReader,
        .required "histogram" Geometry.reader,
        .required "warmup" Warmup.reader,
        .nullable "affinity_src" wordReader,
        .nullable "affinity_rcv" wordReader,
        .required "linger" Duration.reader,
        .required "resolution_pause" Duration.reader,
        .nullable "send_delay" Duration.reader,
        .required "transport" PingPath.reader ])

/-- The settings of a measurement that a document stands for. -/
def PingSettings.ofDocument? (document : Document) : Option PingSettings :=
  match document.values with
  | [rate, count, length, geometry, warmup, senderCpu, receiverCpu, linger, pause, delay, path] =>
      do
        let rate <- rate.word?
        let count <- count.word?
        let length <- length.word?
        let geometry <- Geometry.ofDocument? geometry
        let warmup <- Warmup.ofDocument? warmup
        let senderCpu <- optional? word? senderCpu
        let receiverCpu <- optional? word? receiverCpu
        let linger <- Duration.ofDocument? linger
        let pause <- Duration.ofDocument? pause
        let delay <- optional? Duration.ofDocument? delay
        let path <- PingPath.ofDocument? path
        return ⟨rate, count, length, geometry, warmup, senderCpu, receiverCpu, linger, pause,
          delay, path⟩
  | _ => none

/-- Read the settings of a measurement. -/
def PingSettings.read (text : String) : Except DocumentFault PingSettings :=
  readAs PingSettings.reader PingSettings.ofDocument? text

/-- The document of the settings of a reflector. -/
def PongSettings.document (settings : PongSettings) : Document :=
  .object
    [ ("transport", settings.endpoint.document),
      ("affinity_rcv", ofOption Document.word settings.receiverCpu),
      ("exit_on_eos", .bool settings.exitOnEnd) ]

/-- The reader of the settings of a reflector. -/
def PongSettings.reader : Reader :=
  recordReader
    (.plain
      [ .required "transport" Endpoint.reader,
        .nullable "affinity_rcv" wordReader,
        .required "exit_on_eos" boolReader ])

/-- The settings of a reflector that a document stands for. -/
def PongSettings.ofDocument? (document : Document) : Option PongSettings :=
  match document.values with
  | [endpoint, receiverCpu, exitOnEnd] => do
      let endpoint <- Endpoint.ofDocument? endpoint
      let receiverCpu <- optional? word? receiverCpu
      let exitOnEnd <- exitOnEnd.bool?
      return ⟨endpoint, receiverCpu, exitOnEnd⟩
  | _ => none

/-- Read the settings of a reflector. -/
def PongSettings.read (text : String) : Except DocumentFault PongSettings :=
  readAs PongSettings.reader PongSettings.ofDocument? text

/-- The document of the settings of a jitter run. -/
def JitterSettings.document (settings : JitterSettings) : Document :=
  .object
    [ ("histogram", settings.geometry.document),
      ("affinity_cpu", ofOption Document.word settings.cpu),
      ("group", settings.group.document),
      ("interface", ofOption Ipv4.document settings.interface),
      ("duration", settings.duration.document),
      ("probe_warmup", settings.probeWarmup.document),
      ("probe_window", settings.probeWindow.document) ]

/-- The reader of the settings of a jitter run. -/
def JitterSettings.reader : Reader :=
  recordReader
    (.plain
      [ .required "histogram" Geometry.reader,
        .nullable "affinity_cpu" wordReader,
        .required "group" SocketAddress.reader,
        .nullable "interface" Ipv4.reader,
        .required "duration" Duration.reader,
        .required "probe_warmup" Duration.reader,
        .required "probe_window" Duration.reader ])

/-- The settings of a jitter run that a document stands for. -/
def JitterSettings.ofDocument? (document : Document) : Option JitterSettings :=
  match document.values with
  | [geometry, cpu, group, interface, duration, probeWarmup, probeWindow] => do
      let geometry <- Geometry.ofDocument? geometry
      let cpu <- optional? word? cpu
      let group <- SocketAddress.ofDocument? group
      let interface <- optional? Ipv4.ofDocument? interface
      let duration <- Duration.ofDocument? duration
      let probeWarmup <- Duration.ofDocument? probeWarmup
      let probeWindow <- Duration.ofDocument? probeWindow
      return ⟨geometry, cpu, group, interface, duration, probeWarmup, probeWindow⟩
  | _ => none

/-- Read the settings of a jitter run. -/
def JitterSettings.read (text : String) : Except DocumentFault JitterSettings :=
  readAs JitterSettings.reader JitterSettings.ofDocument? text

end LatencyMeter
