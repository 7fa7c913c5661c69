import LatencyMeter.Reception

/-!
# Datagram paths

The receive thread of a datagram path asks for one datagram after the other. An
empty datagram ends the stream if one is open; any other one is a message. When no
datagram comes for a while, or asking for one fails, the thread looks whether it was
asked to stop; an interrupted attempt is simply repeated.

`DatagramThread` is what the thread remembers between two attempts, and
`DatagramPath` the thread with its handler and what is about to arrive.
-/

namespace LatencyMeter

/-- What an attempt to receive a datagram brings. -/
inductive Arrival
  | datagram (payload : Payload) (source : SocketAddress)
  | timeout
  | interrupted
  | failed (reason : String)
  deriving DecidableEq

/-- What a datagram receive thread remembers between two attempts. -/
structure DatagramThread where
  inStream : Bool
  finished : Bool
  deriving DecidableEq, Repr

namespace DatagramThread

/-- A thread that has received nothing. -/
def start : DatagramThread := ⟨false, false⟩

/-- Whether the clock is read at an arrival. -/
def takesReading (thread : DatagramThread) : Arrival -> Bool
  | .datagram payload _ => !thread.finished && !payload.isEmpty
  | _ => false

/-- The events of an arrival, given the request to stop and the value of the clock. -/
def receive (stopRequested : Bool) (now : UInt64) (thread : DatagramThread)
    (arrival : Arrival) : List StreamEvent × DatagramThread :=
  if thread.finished then
    ([], thread)
  else
    match arrival with
    | .datagram [] source =>
        (Reception.ofEnd thread.inStream (some source), { thread with inStream := false })
    | .datagram payload source =>
        (Reception.ofMessage thread.inStream (some source) payload now,
          { thread with inStream := true })
    | .timeout => ([], { thread with finished := stopRequested })
    | .interrupted => ([], thread)
    | .failed _ => ([], { thread with finished := stopRequested })

/-- The diagnostic of an attempt that failed. -/
def failureEntry (reason : String) : Log.Entry where
  level := .warning
  message := "udp receive failed"
  fields := [("error", reason)]

/-- The diagnostic of a thread that ends of itself. -/
def exitEntry : Log.Entry where
  level := .debug
  message := "udp receive thread exiting"
  fields := []

/-- The diagnostics of an arrival. -/
def entries (before after : DatagramThread) (arrival : Arrival) : List Log.Entry :=
  let failures :=
    match arrival with
    | .failed reason => if before.finished then [] else [failureEntry reason]
    | _ => []
  failures ++ if !before.finished && after.finished then [exitEntry] else []

end DatagramThread

/-- The receiving side of a datagram path. -/
structure DatagramPath (Sink : Type) where
  /-- What the next attempts to receive bring; after that nothing comes. -/
  arriving : List Arrival
  stopRequested : Bool
  thread : DatagramThread
  /-- The fault of the handler that stopped the thread, if any. -/
  crash : Option Cause
  sink : Sink

namespace DatagramPath

/-- A path on which nothing has arrived. -/
def start (sink : Sink) : DatagramPath Sink := ⟨[], false, DatagramThread.start, none, sink⟩

/-- Whether the receive thread has ended, of itself or by a fault. -/
def ended (path : DatagramPath Sink) : Bool :=
  path.thread.finished || path.crash.isSome

/-- Ask the receive thread to stop when nothing arrives any more. -/
def requestStop (path : DatagramPath Sink) : DatagramPath Sink :=
  { path with stopRequested := true }

/-- What joining the receive thread yields once it has ended. -/
def joined (path : DatagramPath Sink) : Option TransportFault :=
  path.crash.map fun _ => .receiverPanicked

/-- What the next attempt to receive brings. -/
def next (path : DatagramPath Sink) : Arrival := path.arriving.headD .timeout

/-- Whether the next step of the receive thread reads the clock. -/
def takesReading (path : DatagramPath Sink) : Bool :=
  !path.crash.isSome && path.thread.takesReading path.next

/-- Whether something has arrived for the receive thread. -/
def hasMessage (path : DatagramPath Sink) : Bool :=
  !path.ended && !path.arriving.isEmpty

/-- The message that the next step of the receive thread hands to its handler, if any. -/
def nextMessage? (path : DatagramPath Sink) : Option Payload :=
  if path.ended then
    none
  else
    match path.next with
    | .datagram [] _ => none
    | .datagram payload _ => some payload
    | _ => none

/-- One step of the receive thread, with the value of the clock should it read it. -/
def step (handler : Handler Sink) (now : UInt64) (path : DatagramPath Sink) :
    DatagramPath Sink × List Log.Entry :=
  if path.ended then
    (path, [])
  else
    let arrival := path.next
    let (events, thread) := path.thread.receive path.stopRequested now arrival
    let (crash, sink) := Reception.deliver handler events path.sink
    ({ path with
        arriving := path.arriving.tail
        thread := thread
        crash := crash
        sink := sink },
      DatagramThread.entries path.thread thread arrival)

/-- How many steps the receive thread takes at most once it was asked to stop. -/
def stepsLeft (path : DatagramPath Sink) : Nat := path.arriving.length + 1

/-- Run the receive thread alone for a number of steps, counting its clock readings. -/
def runFor (handler : Handler Sink) (clock : Nat -> UInt64) :
    Nat -> Nat × DatagramPath Sink -> Nat × DatagramPath Sink
  | 0, state => state
  | steps + 1, (reads, path) =>
      let after := if path.takesReading then reads + 1 else reads
      runFor handler clock steps (after, (path.step handler (clock reads)).1)

/-- Ask the receive thread to stop and run it to its end. -/
def shutdown (handler : Handler Sink) (clock : Nat -> UInt64)
    (state : Nat × DatagramPath Sink) : Nat × DatagramPath Sink :=
  let (reads, path) := state
  runFor handler clock path.stepsLeft (reads, path.requestStop)

end DatagramPath
end LatencyMeter
