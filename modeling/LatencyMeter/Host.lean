import LatencyMeter.DatagramPath
import LatencyMeter.LoopbackPath
import LatencyMeter.RoundTrip
import LatencyMeter.Session
import LatencyMeter.Transcript

/-!
# Hosts

A host is what a session runs on: a clock, a network, cores, two outputs for lines
and, once a path has been opened, its receive thread. It answers the requests of the
session and lets the receive thread take steps. All threads read the same clock, and
everything written goes to one transcript.

A request that has to wait is not answered until the receive thread has come far
enough.
-/

namespace LatencyMeter

/-- The receive thread of a session with its path. -/
inductive Receiver
  | loopback (path : LoopbackPath Listener)
  | datagrams (path : DatagramPath Listener)
  | reflecting (path : DatagramPath Reflector)

namespace Receiver

/-- The measurement that the receive thread takes part in, if it does in one. -/
def listener? : Receiver -> Option Listener
  | .loopback path => some path.sink
  | .datagrams path => some path.sink
  | .reflecting _ => none

/-- Change the measurement. -/
def mapListener (change : Listener -> Listener) : Receiver -> Receiver
  | .loopback path => .loopback { path with sink := change path.sink }
  | .datagrams path => .datagrams { path with sink := change path.sink }
  | .reflecting path => .reflecting path

/-- Ask the receive thread to stop. -/
def requestStop : Receiver -> Receiver
  | .loopback path => .loopback path.requestStop
  | .datagrams path => .datagrams path.requestStop
  | .reflecting path => .reflecting path.requestStop

/-- What joining the receive thread yields, once it has ended. -/
def joined? : Receiver -> Option (Option TransportFault)
  | .loopback path => if path.ended then some path.joined else none
  | .datagrams path => if path.ended then some path.joined else none
  | .reflecting path => if path.ended then some path.joined else none

/-- Whether there is a message for the receive thread. -/
def hasMessage : Receiver -> Bool
  | .loopback path => path.hasMessage
  | .datagrams path => path.hasMessage
  | .reflecting path => path.hasMessage

/-- Whether the next step of the receive thread reads the clock. -/
def takesReading : Receiver -> Bool
  | .loopback path => path.takesReading
  | .datagrams path => path.takesReading
  | .reflecting path => path.takesReading

/-- A reflector never fails at an event. -/
def reflectorHandler : Handler Reflector :=
  fun reflector event => (none, reflector.deliver event)

/-- One step of the receive thread, with the value of the clock should it read it. -/
def step (now : UInt64) : Receiver -> Receiver × List Log.Entry
  | .loopback path =>
      let after := path.step Listener.deliver now
      let entries :=
        match path.ended, after.point with
        | false, .finished => [LoopbackPath.exitEntry]
        | _, _ => []
      (.loopback after, entries)
  | .datagrams path =>
      let (after, entries) := path.step Listener.deliver now
      (.datagrams after, entries)
  | .reflecting path =>
      let (after, entries) := path.step reflectorHandler now
      (.reflecting after, entries)

/-- Change the reporter of the receive thread. -/
def mapReporter (change : Reporter -> Reporter) : Receiver -> Receiver
  | .reflecting path =>
      .reflecting
        { path with sink := { path.sink with reporter := change path.sink.reporter } }
  | receiver =>
      receiver.mapListener fun listener =>
        { listener with reporter := change listener.reporter }

/-- The reporter of the receive thread. -/
def reporter : Receiver -> Reporter
  | .loopback path => path.sink.reporter
  | .datagrams path => path.sink.reporter
  | .reflecting path => path.sink.reporter

end Receiver

/-- What a reporter has written. -/
def Reporter.utterances (reporter : Reporter) : List Utterance :=
  reporter.events.lines.toList.map .stream ++ reporter.log.toList.map .diagnostic

/-- The reporter with what it has written handed on. -/
def Reporter.emptied (reporter : Reporter) : Reporter :=
  { reporter with events := { reporter.events with lines := #[] }, log := #[] }

/-- What a session runs on. -/
structure Host where
  /-- The value of each clock reading, by its number. -/
  clock : Nat -> UInt64
  reads : Nat
  /-- Why the network refuses a datagram, by the number of the attempt, if it does. -/
  network : Nat -> Payload -> Option TransportFault
  attempts : Nat
  /-- Why a datagram path cannot be opened, if it cannot. -/
  opening : Endpoint -> Option TransportFault
  binder : Binder
  /-- The output for the report. -/
  report : Journal
  /-- The output for the lines on the streams. -/
  streamLines : Journal
  receiver : Option Receiver
  transcript : Transcript

namespace Host

/-- A host on which nothing has happened, whose outputs refuse nothing. -/
def start (clock : Nat -> UInt64) (network : Nat -> Payload -> Option TransportFault)
    (binder : Binder) : Host :=
  ⟨clock, 0, network, 0, fun _ => none, binder, Journal.willing, Journal.willing, none, #[]⟩

/-- Keep what was written. -/
def keep (host : Host) (utterances : List Utterance) : Host :=
  { host with transcript := host.transcript ++ utterances }

/-- The flight counters of the measurement. -/
def flight (host : Host) : Flight :=
  ((host.receiver.bind Receiver.listener?).map fun listener =>
    listener.roundTrip.flight).getD Flight.empty

/-- Change the measurement. -/
def mapRoundTrip (host : Host) (change : RoundTrip -> RoundTrip) : Host :=
  { host with
    receiver :=
      host.receiver.map fun receiver =>
        receiver.mapListener fun listener =>
          { listener with roundTrip := change listener.roundTrip } }

/-- Change the flight counters of the measurement. -/
def mapFlight (host : Host) (change : Flight -> Flight) : Host :=
  host.mapRoundTrip fun roundTrip => { roundTrip with flight := change roundTrip.flight }

/-- A reporter for a receive thread of this host. -/
def newReporter (host : Host) (cpu : Option UInt64) : Reporter :=
  ⟨cpu, host.binder, host.streamLines, #[]⟩

/-- Hand a datagram to the network. -/
def sendDatagram (host : Host) (message : Payload) : Option TransportFault × Host :=
  (host.network host.attempts message, { host with attempts := host.attempts + 1 })

/-- Hand a message to the open path. -/
def transmit (host : Host) (message : Payload) : Option TransportFault × Host :=
  match host.receiver with
  | some (.loopback path) =>
      let (fault, path) := path.send message
      (fault, { host with receiver := some (.loopback path) })
  | _ => host.sendDatagram message

/-- Tell the receiving side that nothing more is sent. -/
def close (host : Host) : Option TransportFault × Host :=
  match host.receiver with
  | some (.loopback path) => (none, { host with receiver := some (.loopback path.close) })
  | _ => host.sendDatagram []

/-- Open a path and start to listen. -/
def listen (host : Host) (path : PingPath) (cpu : Option UInt64) (histogram : Histogram) :
    Option TransportFault × Host :=
  let listener : Listener := ⟨RoundTrip.start histogram, host.newReporter cpu⟩
  match path with
  | .loopback =>
      (none, { host with receiver := some (.loopback (LoopbackPath.start listener)) })
  | .datagrams endpoint =>
      match host.opening endpoint with
      | some fault => (some fault, host)
      | none =>
          (none, { host with receiver := some (.datagrams (DatagramPath.start listener)) })

/-- Open a path and start to reflect. -/
def reflect (host : Host) (endpoint : Endpoint) (cpu : Option UInt64) (exitOnEnd : Bool) :
    Option TransportFault × Host :=
  match host.opening endpoint with
  | some fault => (some fault, host)
  | none =>
      let reflector : Reflector :=
        { reflection := ⟨host.network, exitOnEnd, 0, #[], ReceiveCounts.zero, false⟩
          mailbox := ⟨true, []⟩
          reporter := host.newReporter cpu }
      (none, { host with receiver := some (.reflecting (DatagramPath.start reflector)) })

/-- Write a part of the report. -/
def print (host : Host) (text : String) : Option String × Host :=
  match host.report.write text with
  | (none, report) =>
      (none, { host with report := { report with lines := #[] } }.keep [.report text])
  | (some reason, report) => (some reason, { host with report := report })

/-- The next notification of the reflector, once there is one or the reflector is gone. -/
def notification? (host : Host) : Option (Option Notification × Host) :=
  match host.receiver with
  | some (.reflecting path) =>
      match path.sink.mailbox.waiting with
      | notification :: rest =>
          let mailbox : Mailbox := { path.sink.mailbox with waiting := rest }
          let path := { path with sink := { path.sink with mailbox := mailbox } }
          some (some notification, { host with receiver := some (.reflecting path) })
      | [] => if path.ended then some (none, host) else none
  | _ => some (none, host)

/-- Answer a request of a sending loop. -/
def answerSending : (request : Sending.Request) -> Host -> request.Answer × Host
  | .clock _, host => (host.clock host.reads, { host with reads := host.reads + 1 })
  | .total, host => (host.flight.total, host)
  | .raiseTotal, host => ((), host.mapFlight Flight.raiseTotal)
  | .raiseOutstanding, host =>
      let raised := host.mapFlight Flight.raiseOutstanding
      (raised.flight.outstanding, raised)
  | .raisePeak level, host => ((), host.mapFlight (Flight.raisePeak level))
  | .peak, host => (host.flight.peak, host)
  | .transmit message, host => host.transmit message
  | .wait _, host => ((), host)
  | .note entry, host => ((), host.keep [.diagnostic entry])

/-- Answer a request of a session, unless it has to wait. -/
def answer? : (request : Session.Request) -> Host -> Option (request.Answer × Host)
  | .sending request, host => some (host.answerSending request)
  | .print text, host => some (host.print text)
  | .bindThread core, host =>
      let (accepted, binder) := host.binder.bind core
      some (accepted, { host with binder := binder })
  | .listen path cpu histogram, host => some (host.listen path cpu histogram)
  | .reflect endpoint cpu exitOnEnd, host => some (host.reflect endpoint cpu exitOnEnd)
  | .openProbe endpoint, host => some (host.opening endpoint, host)
  | .resetSamples, host => some ((), host.mapRoundTrip RoundTrip.resetSamples)
  | .close, host => some host.close
  | .stop, host => some ((), { host with receiver := host.receiver.map Receiver.requestStop })
  | .join, host =>
      match host.receiver with
      | none => some (none, host)
      | some receiver => receiver.joined?.map fun fault => (fault, host)
  | .notification, host => host.notification?
  | .counts, host =>
      some
        (((host.receiver.bind Receiver.listener?).map fun listener =>
            listener.roundTrip.counts).getD ReceiveCounts.zero, host)
  | .histogram, host =>
      some
        (((host.receiver.bind Receiver.listener?).map fun listener =>
            listener.roundTrip.histogram).getD default, host)

/-- Let the receive thread take one step. -/
def receive (host : Host) : Host :=
  match host.receiver with
  | none => host
  | some receiver =>
      let reads := if receiver.takesReading then host.reads + 1 else host.reads
      let (after, entries) := receiver.step (host.clock host.reads)
      let written := after.reporter.utterances ++ entries.map .diagnostic
      { host with
        reads := reads
        receiver := some (after.mapReporter Reporter.emptied) }.keep written

end Host
end LatencyMeter
