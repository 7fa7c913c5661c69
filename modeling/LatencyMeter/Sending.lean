import LatencyMeter.Flight
import LatencyMeter.Header
import LatencyMeter.Duration.Format
import LatencyMeter.Log
import LatencyMeter.Program

/-!
# Sending loops and their surroundings

A sending loop reads the clock, keeps the flight counters and hands messages to
the transport. Each of these is one request, so that every step of a sending
thread that another thread can see is a step of its own: the counter of sent
messages, the counter of unconfirmed messages and its peak are raised one after
the other, before the message is handed over.

A `Station` answers the requests of one loop that runs alone. It keeps what
happened in order: the clock readings with their purpose, and the attempts to
hand over a message with their outcome.
-/

namespace LatencyMeter

/-- What a clock reading is for. -/
inductive ClockUse
  /-- To see how much time has passed. -/
  | schedule
  /-- To stamp a message. -/
  | stamp
  /-- To be recorded as a sample. -/
  | sample
  deriving DecidableEq, Repr

namespace Sending

/-- What a sending loop asks of its surroundings. -/
inductive Request
  | clock (purpose : ClockUse)
  | total
  | raiseTotal
  | raiseOutstanding
  | raisePeak (level : Int64)
  | peak
  | transmit (message : Payload)
  | wait (duration : Duration)
  | note (entry : Log.Entry)

/-- What a request is answered with. -/
abbrev Request.Answer : Request -> Type
  | .clock _ => UInt64
  | .total => UInt64
  | .raiseTotal => Unit
  | .raiseOutstanding => Int64
  | .raisePeak _ => Unit
  | .peak => Int64
  | .transmit _ => Option TransportFault
  | .wait _ => Unit
  | .note _ => Unit

end Sending

/-- A program made of the requests of a sending loop. -/
abbrev Sending (α : Type) := Program Sending.Request Sending.Request.Answer α

namespace Sending

/-- Read the clock. -/
def readClock (purpose : ClockUse) : Sending UInt64 := Program.request (Request.clock purpose)

/-- The count of messages sent so far, which is the number of the next message. -/
def nextNumber : Sending UInt64 := Program.request Request.total

/-- Hand a message to the transport. -/
def transmit (message : Payload) : Sending (Option TransportFault) :=
  Program.request (Request.transmit message)

/-- Let time pass. -/
def wait (duration : Duration) : Sending Unit := Program.request (Request.wait duration)

/-- Write a diagnostic. -/
def note (entry : Log.Entry) : Sending Unit := Program.request (Request.note entry)

/-- Account for one message about to be handed over. -/
def countSent : Sending Unit := do
  let _ <- Program.request Request.raiseTotal
  let level <- Program.request Request.raiseOutstanding
  Program.request (Request.raisePeak level)

/-- The flags of a message. -/
def flagsFor (timestamp : Bool) : UInt32 :=
  if timestamp then Header.timestampFlag else 0

/-- Number one message, account for it, stamp it when asked to, and hand it over. -/
def launch (timestamp : Bool) (buffer : Buffer) : Sending (Option TransportFault × Buffer) := do
  let number <- nextNumber
  let numbered := buffer.write ⟨number, 0, flagsFor timestamp⟩
  countSent
  if timestamp then
    let time <- readClock .stamp
    let stamped := numbered.stamp time
    let fault <- transmit stamped.bytes
    return (fault, stamped)
  else
    let fault <- transmit numbered.bytes
    return (fault, numbered)

/-- Report a refused message and give the failure that ends the loop. -/
def refused (linkName : String) (stage : Stage) (sent largest : UInt64)
    (fault : TransportFault) : Sending Failure := do
  let peak <- Program.request Request.peak
  note
    { level := .error
      message := linkName ++ " send failed"
      fields :=
        [("num_sent", wordText sent), ("max_tight_sends", wordText largest),
          ("max_flight_size", signedText peak)] }
  return (Failure.ofCause (.transport fault)).within stage

end Sending

/-- One thing that happened at a station. -/
inductive Occurrence
  | read (purpose : ClockUse) (value : UInt64)
  | attempt (message : Payload) (fault : Option TransportFault)

/-- The surroundings of a sending loop that runs alone. -/
structure Station where
  /-- The value of each clock reading, by its number. -/
  clock : Nat -> UInt64
  /-- Why the transport refuses a message, by the number of the attempt, if it does. -/
  link : Nat -> Payload -> Option TransportFault
  flight : Flight
  reads : Nat
  attempts : Nat
  history : Array Occurrence
  log : Array Log.Entry

namespace Station

/-- A station at which nothing has happened. -/
def start (clock : Nat -> UInt64) (link : Nat -> Payload -> Option TransportFault)
    (flight : Flight) : Station :=
  ⟨clock, link, flight, 0, 0, #[], #[]⟩

/-- Answer one request. -/
def answer : (request : Sending.Request) -> Station -> request.Answer × Station
  | .clock purpose, station =>
      let value := station.clock station.reads
      (value,
        { station with
          reads := station.reads + 1
          history := station.history.push (.read purpose value) })
  | .total, station => (station.flight.total, station)
  | .raiseTotal, station => ((), { station with flight := station.flight.raiseTotal })
  | .raiseOutstanding, station =>
      let flight := station.flight.raiseOutstanding
      (flight.outstanding, { station with flight := flight })
  | .raisePeak level, station =>
      ((), { station with flight := station.flight.raisePeak level })
  | .peak, station => (station.flight.peak, station)
  | .transmit message, station =>
      let fault := station.link station.attempts message
      (fault,
        { station with
          attempts := station.attempts + 1
          history := station.history.push (.attempt message fault) })
  | .wait _, station => ((), station)
  | .note entry, station => ((), { station with log := station.log.push entry })

/-- Run a sending loop at a station. -/
def run (station : Station) (program : Sending α) : Option α × Station :=
  Program.run answer program station

/-- The messages among some occurrences that the transport accepted. -/
def acceptedIn (history : List Occurrence) : List Payload :=
  history.filterMap fun occurrence =>
    match occurrence with
    | .attempt message none => some message
    | _ => none

/-- The messages that the transport accepted, in order. -/
def accepted (station : Station) : List Payload :=
  acceptedIn station.history.toList

end Station

/-- Counting a message at a station is what the flight record calls sending it. -/
@[simp] theorem Station.run_countSent (station : Station) :
    station.run Sending.countSent =
      (some (), { station with flight := station.flight.sent }) := rfl

end LatencyMeter
