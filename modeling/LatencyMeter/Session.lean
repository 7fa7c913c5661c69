import LatencyMeter.Histogram
import LatencyMeter.Reflector
import LatencyMeter.Sending
import LatencyMeter.Settings.Ping

/-!
# Sessions

A session is what the main thread of the tool does from its first line to its last.
It opens a path whose receive thread works beside it, sends, waits for that thread,
and reports. Whatever it needs of the host or shares with the receive thread is a
request, so that each of them is a step between which the receive thread may act.

A session either yields a result or ends in a failure.
-/

namespace LatencyMeter
namespace Session

/-- What a session asks of its surroundings. -/
inductive Request
  | sending (request : Sending.Request)
  /-- Write a part of the report. -/
  | print (text : String)
  /-- Bind the main thread to a core. -/
  | bindThread (core : UInt64)
  /-- Open a path and listen on it, with the core of the receive thread. -/
  | listen (path : PingPath) (cpu : Option UInt64) (histogram : Histogram)
  /-- Open a datagram path and reflect what arrives, with the core of the receive thread. -/
  | reflect (endpoint : Endpoint) (cpu : Option UInt64) (exitOnEnd : Bool)
  /-- Open a datagram path for sending only. -/
  | openProbe (endpoint : Endpoint)
  /-- Forget all samples. -/
  | resetSamples
  /-- Tell the receiving side that nothing more is sent. -/
  | close
  /-- Ask the receive thread to stop. -/
  | stop
  /-- Wait until the receive thread has ended. -/
  | join
  /-- Wait for a notification of the reflector, or for its end. -/
  | notification
  | counts
  | histogram

/-- What a request is answered with; a fault or reason says that it was refused. -/
abbrev Request.Answer : Request -> Type
  | .sending request => request.Answer
  | .print _ => Option String
  | .bindThread _ => Bool
  | .listen _ _ _ => Option TransportFault
  | .reflect _ _ _ => Option TransportFault
  | .openProbe _ => Option TransportFault
  | .resetSamples => Unit
  | .close => Option TransportFault
  | .stop => Unit
  | .join => Option TransportFault
  | .notification => Option Notification
  | .counts => ReceiveCounts
  | .histogram => Histogram

end Session

/-- A program made of the requests of a session, which may end in a failure. -/
abbrev Session := ExceptT Failure (Program Session.Request Session.Request.Answer)

namespace Session

/-- Ask one request. -/
def ask (request : Request) : Session request.Answer :=
  ExceptT.lift (Program.request request)

/-- Do what a sending loop does. -/
def ofSending (program : Sending α) : Session α :=
  ExceptT.lift (program.translate fun request => Program.request (Request.sending request))

/-- End in a failure if there is a fault. -/
def refuse (fault : Option TransportFault) : Session Unit :=
  match fault with
  | none => return ()
  | some fault => throw (Failure.ofCause (.transport fault))

/-- See the failures of a session from outside one more stage. -/
def within (stage : Stage) (session : Session α) : Session α :=
  ExceptT.mk (session.run >>= fun result => .done (Failure.inStage stage result))

/-- Write a diagnostic. -/
def note (entry : Log.Entry) : Session Unit := ofSending (Sending.note entry)

/-- Write several diagnostics. -/
def notes : List Log.Entry -> Session Unit
  | [] => return ()
  | entry :: rest => do
      note entry
      notes rest

/-- Write a part of the report. -/
def print (text : String) : Session Unit := do
  match <- ask (.print text) with
  | none => return ()
  | some reason => throw (Failure.ofCause (.io reason))

/-- Bind the main thread to a core. -/
def bindThread (core : UInt64) : Session Unit := do
  if <- ask (.bindThread core) then
    return ()
  else
    throw (Failure.ofCause (.affinity (.bindRejected core)))

/-- Make a histogram. -/
def createHistogram (geometry : Geometry) : Session Histogram :=
  within .creatingHistogram
    (ofExcept ((Histogram.create geometry).mapError fun fault =>
      Failure.ofCause (.histogram fault)))

/-- The diagnostics of a datagram path that has been opened. -/
def openedEntries (endpoint : Endpoint) : List Log.Entry :=
  let joined :=
    match endpoint.joinGroup with
    | none => []
    | some group =>
        [ { level := .debug
            message := "joined multicast group"
            fields :=
              [ ("group", group.text),
                ("interface", (endpoint.interface.getD Ipv4.unspecified).text) ] } ]
  joined ++
    [ { level := .debug
        message := "udp transport open"
        fields := [("bind", endpoint.bind.text), ("dest", endpoint.dest.text)] } ]

/-- Ask the receive thread to stop and wait until it has ended. -/
def stopReceiver : Session Unit :=
  within .stoppingReceiver do
    ask .stop
    refuse (<- ask .join)

/-- The diagnostic of a receive thread that had crashed when it was given up. -/
def abandonedEntry : Log.Entry where
  level := .debug
  message := "receive thread panicked during drop"
  fields := []

/-- Give the receive thread up, whatever has become of it. -/
def abandonReceiver : Session Unit := do
  ask .stop
  match <- ask .join with
  | none => return ()
  | some _ => note abandonedEntry

/-- Run a session beside a receive thread; on a failure the thread is given up. -/
def besideReceiver (session : Session α) : Session α :=
  tryCatch session fun failure => do
    abandonReceiver
    throw failure

end Session
end LatencyMeter
