import LatencyMeter.Log.Filter
import LatencyMeter.Options.Usage
import LatencyMeter.Tool
import Std.Async.UDP
import Std.Time.DateTime.Timestamp

/-!
# The command line

The outer layer runs a session on the real host. Before each step of a thread it does
what that step needs of the outside: it reads the clock, sends or receives a datagram,
opens a socket or writes to an output. The step itself is taken by the library, and
what the threads have written since then goes to the diagnostics.
-/

namespace LatencyMeter
namespace CommandLine

open Std.Async

/-- Where the tool writes. -/
structure Console where
  threshold : Log.Threshold
  coloured : Bool
  output : IO.FS.Stream
  diagnostics : IO.FS.Stream

/-- An open socket with its destination and the attempt to receive that is under way. -/
structure Line where
  socket : UDP.Socket
  dest : SocketAddress
  receiving : Option (AsyncTask (ByteArray × Option Std.Net.SocketAddress))

/-- A session on the real host. -/
structure Running (α : Type) where
  console : Console
  /-- The reading of the system clock that counts as zero. -/
  origin : Nat
  line : Option Line
  /-- When the main thread goes on, while it waits. -/
  wakeAt : Option Nat
  threads : Threads α

/-- The longest datagram that is received. -/
def maxDatagram : UInt64 := 65536

/-- How many milliseconds an idle receive thread waits before it looks whether to stop. -/
def pollInterval : Nat := 50

/-- An address as the sockets have it. -/
def netIp (address : Ipv4) : Std.Net.IPv4Addr :=
  ⟨#v[address.first, address.second, address.third, address.fourth]⟩

/-- A socket address as the sockets have it. -/
def netAddress : SocketAddress -> Std.Net.SocketAddress
  | .v4 address port => .v4 ⟨netIp address, port⟩
  | .v6 address port _ =>
      .v6 ⟨⟨⟨address.segments.toArray, by simp [address.length_segments]⟩⟩, port⟩

/-- A socket address of the sockets. -/
def ofNetAddress : Std.Net.SocketAddress -> SocketAddress
  | .v4 address =>
      let octets := address.addr.octets
      .v4 ⟨octets[0], octets[1], octets[2], octets[3]⟩ address.port
  | .v6 address => .v6 ⟨address.addr.segments.toList, by simp⟩ address.port 0

/-- What came of an action: the reason why it failed, if it did. -/
def refusalOf (action : IO Unit) : IO (Option String) := do
  try
    action
    return none
  catch problem => return some (toString problem)

/-- Write a diagnostic, if its level is to be written. -/
def note (console : Console) (entry : Log.Entry) : IO Unit := do
  if console.threshold.admits entry.level then
    let line := if console.coloured then entry.colouredLine else entry.line
    let _ <- refusalOf (console.diagnostics.putStr (line ++ "\n"))

/-- Write to the output at once. -/
def write (console : Console) (text : String) : IO Unit := do
  console.output.putStr text
  console.output.flush

/-- Pass on what the threads have written; the report has been written before its step. -/
def utter (console : Console) : Utterance -> IO Unit
  | .report _ => return ()
  | .stream text => do
      let _ <- refusalOf (write console text)
  | .diagnostic entry => note console entry

/-- Begin to receive one datagram. -/
def beginReceiving (line : Line) : IO Line := do
  let task <- (line.socket.recv maxDatagram).toIO
  return { line with receiving := some task }

/-- Open a socket for one end of a path. -/
def openSocket (endpoint : Endpoint) : IO Line := do
  let socket <- UDP.Socket.mk
  socket.bind (netAddress endpoint.bind)
  let interface := netIp (endpoint.interface.getD Ipv4.unspecified)
  match endpoint.dest with
  | .v4 group _ =>
      if group.isMulticast then
        socket.setMulticastInterface (.v4 interface)
        socket.setMulticastTTL endpoint.multicastTtl
  | .v6 _ _ _ => pure ()
  match endpoint.joinGroup with
  | none => pure ()
  | some group => socket.setMembership (.v4 (netIp group)) (some (.v4 interface)) .enterGroup
  return ⟨socket, endpoint.dest, none⟩

/-- Send a datagram, and say why it was refused if it was. -/
def send (line : Line) (message : Payload) : IO (Option TransportFault) := do
  let refusal <-
    refusalOf ((line.socket.send ⟨message.toArray⟩ (some (netAddress line.dest))).block)
  return refusal.map TransportFault.send

/-- The datagram that has come, if one has. -/
def arrived? (line : Line) : IO (Option Arrival) := do
  match line.receiving with
  | none => return none
  | some task =>
      if <- IO.hasFinished task then
        match <- IO.wait task with
        | .ok (data, some source) =>
            return some (.datagram data.toList (ofNetAddress source))
        | .ok (_, none) => return some .interrupted
        | .error problem => return some (.failed (toString problem))
      else
        return none

namespace Running

/-- Change the host. -/
def mapHost (running : Running α) (change : Host -> Host) : Running α :=
  { running with
    threads := { running.threads with host := change running.threads.host } }

/-- Let the next datagram be refused for a reason, or not. -/
def setVerdict (running : Running α) (verdict : Option TransportFault) : Running α :=
  running.mapHost fun host =>
    let receiver :=
      match host.receiver with
      | some (.reflecting path) =>
          let reflection := { path.sink.reflection with link := fun _ _ => verdict }
          some (.reflecting { path with sink := { path.sink with reflection := reflection } })
      | other => other
    { host with network := fun _ _ => verdict, receiver := receiver }

/-- Hand an arrival to the receive thread. -/
def addArrival (running : Running α) (arrival : Arrival) : Running α :=
  running.mapHost fun host =>
    let receiver :=
      match host.receiver with
      | some (.datagrams path) =>
          some (.datagrams { path with arriving := path.arriving ++ [arrival] })
      | some (.reflecting path) =>
          some (.reflecting { path with arriving := path.arriving ++ [arrival] })
      | other => other
    { host with receiver := receiver }

/-- Take a datagram from the socket if one has come. -/
def poll (running : Running α) : IO (Running α × Bool) := do
  match running.line with
  | none => return (running, false)
  | some line =>
      match <- arrived? line with
      | none => return (running, false)
      | some arrival =>
          let line <- beginReceiving line
          return ({ running with line := some line }.addArrival arrival, true)

/-- Take a datagram from the socket, waiting for it for a number of milliseconds. -/
def pollFor (running : Running α) : Nat -> IO (Running α × Bool)
  | 0 => running.poll
  | patience + 1 => do
      let (running, came) <- running.poll
      if came then
        return (running, true)
      else
        IO.sleep 1
        running.pollFor patience

/-- Open a socket for the path that the main thread is about to open. -/
def openLine (running : Running α) (endpoint : Endpoint) (receiving : Bool) :
    IO (Running α) := do
  try
    let line <- openSocket endpoint
    let line <- if receiving then beginReceiving line else pure line
    return { running with line := some line }.mapHost fun host =>
      { host with opening := fun _ => none }
  catch problem =>
    return running.mapHost fun host =>
      { host with opening := fun _ => some (.setup (toString problem)) }

/-- Send a datagram and keep the verdict for the step that sends it. -/
def sendFirst (running : Running α) (message : Payload) : IO (Running α) := do
  match running.line with
  | none => return running
  | some line => return running.setVerdict (<- send line message)

/-- Do what the next request of the main thread needs of the outside. -/
def prepare (running : Running α) : Session.Request -> IO (Running α)
  | .print text => do
      let refusal <- refusalOf (write running.console text)
      return running.mapHost fun host =>
        { host with report := { host.report with refusal := fun _ => refusal } }
  | .listen (.datagrams endpoint) _ _ => running.openLine endpoint true
  | .reflect endpoint _ _ => running.openLine endpoint true
  | .openProbe endpoint => running.openLine endpoint false
  | .sending (.transmit message) => running.sendFirst message
  | .close => running.sendFirst []
  | _ => return running

/-- Take one turn and pass on what was written. -/
def take (running : Running α) (turn : Turn) : IO (Running α) := do
  let threads := running.threads.step turn
  for utterance in threads.host.transcript do
    utter running.console utterance
  let host := { threads.host with transcript := #[] }
  return { running with threads := { threads with host := host } }

/-- Give the receive thread a turn, unless something comes for it before it loses patience. -/
def receiveOrWait (running : Running α) : IO (Running α) := do
  if running.threads.host.receiver.any Receiver.hasMessage then
    running.take .receiver
  else
    let (running, came) <- running.pollFor pollInterval
    if came then return running else running.take .receiver

/-- Give the receive thread a turn, with the verdict on the echo that it is about to send. -/
def receive (running : Running α) : IO (Running α) := do
  match running.threads.host.receiver with
  | some (.loopback _) => running.take .receiver
  | some (.reflecting path) =>
      match path.nextMessage? with
      | some message => (<- running.sendFirst message).take .receiver
      | none => running.receiveOrWait
  | _ => running.receiveOrWait

/-- Give the main thread a turn, unless it waits for some time to pass. -/
def advance (running : Running α) (now : Nat) : IO (Running α) := do
  match running.threads.main with
  | .ask (.sending (.wait duration)) _ =>
      match running.wakeAt with
      | none => return { running with wakeAt := some (now + duration.toNanos) }
      | some time =>
          if now < time then
            IO.sleep (if time - now < 1000000 then 0 else 1)
            return running
          else
            let awake := { running with wakeAt := none }
            awake.take .main
  | .ask request _ => (<- running.prepare request).take .main
  | _ => return running

/-- Take turns until the main thread has come to an end. -/
partial def toEnd (running : Running α) : IO (Threads α) := do
  let now := (<- IO.monoNanosNow) - running.origin
  let running := running.mapHost fun host => { host with clock := fun _ => UInt64.ofNat now }
  let (running, _) <- running.poll
  match running.threads.next? with
  | none => return running.threads
  | some .receiver => toEnd (<- running.receive)
  | some .main => toEnd (<- running.advance now)

end Running

/-- The first line of a file, or another text if there is none. -/
def firstLine (path fallback : String) : IO String := do
  try
    let text <- IO.FS.readFile path
    return String.ofList (text.toList.takeWhile fun character => character != '\n')
  catch _ => return fallback

/-- How many cores the host has. -/
def coreCount : IO UInt64 := do
  try
    let text <- IO.FS.readFile "/proc/cpuinfo"
    let lines := (text.splitOn "\n").filter fun line => line.startsWith "processor"
    return UInt64.ofNat (max 1 lines.length)
  catch _ => return 1

/-- The host, as records name it. -/
def hostInfo : IO HostInfo := do
  let os <- firstLine "/proc/sys/kernel/ostype" "linux"
  let architecture <- firstLine "/proc/sys/kernel/arch" "x86_64"
  return ⟨os.toLower, architecture, <- coreCount, languageVersion, toolVersion⟩

/-- The time of day. -/
def timeNow : IO Timestamp := do
  let now <- Std.Time.Timestamp.now
  let nanos := now.toNanosecondsSinceUnixEpoch.val
  return ⟨nanos / 1000000000, (nanos % 1000000000).toNat⟩

/-- A host whose cores can be bound; where its threads run is left to the system. -/
def startHost (cores : UInt64) : Host :=
  Host.start (fun _ => 0) (fun _ _ => none) ⟨fun _ core => core < cores, []⟩

/-- Store a record, and say why it could not be stored if it could not. -/
def store (path : String) (record : RunRecord) : IO (Option Failure) := do
  let refusal <- refusalOf (IO.FS.writeFile path record.text)
  return refusal.map fun reason =>
    (Failure.ofCause (.io reason)).within (.writingResults path)

/-- Report a failure that ends the tool. -/
def fail (console : Console) (failure : Failure) : IO UInt32 := do
  note console failure.entry
  return UInt32.ofNat failureCode

/-- More clock readings than any run makes. -/
def unlimited : Nat := 4611686018427387904

/-- Do a task on the real host. -/
def perform (console : Console) (info : HostInfo) (task : Task) : IO UInt32 := do
  let origin <- IO.monoNanosNow
  let threads := Threads.start (task.session unlimited) (startHost info.cores)
  let ended <- Running.toEnd ⟨console, origin, none, none, threads⟩
  match ended.result? with
  | none => return UInt32.ofNat failureCode
  | some (.error failure) => fail console failure
  | some (.ok result) =>
      match task.record? (<- timeNow) info result with
      | none => return 0
      | some (path, record) =>
          match <- store path record with
          | some failure => fail console failure
          | none =>
              note console (RunRecord.storedEntry path)
              return 0

/-- Do what a command line asks for. -/
def run (arguments : List String) : IO UInt32 := do
  let output <- IO.getStdout
  let diagnostics <- IO.getStderr
  match Command.parse arguments with
  | .error .helpWanted =>
      output.putStr (Options.helpText toolName)
      return 0
  | .error .versionWanted =>
      output.putStr versionText
      return 0
  | .error fault =>
      diagnostics.putStr ("error: " ++ fault.message ++ "\n\n" ++ Options.helpText toolName)
      return UInt32.ofNat fault.exitCode
  | .ok invocation =>
      let fallback := Log.Threshold.ofVerbosity invocation.verbosity
      let filter := (<- IO.getEnv "RUST_LOG").getD ""
      let threshold := Log.Threshold.ofFilter toolComponent fallback filter
      let coloured := (<- output.isTty) && (<- IO.getEnv "NO_COLOR").isNone
      let console : Console := ⟨threshold, coloured, output, diagnostics⟩
      let info <- hostInfo
      let (entries, prepared) := invocation.prepare info.cores
      for entry in entries do
        note console entry
      match prepared with
      | .error failure => fail console failure
      | .ok task => perform console info task

end CommandLine
end LatencyMeter

/-- Do what the command line asks for. -/
def main (arguments : List String) : IO UInt32 :=
  LatencyMeter.CommandLine.run arguments
