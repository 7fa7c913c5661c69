import LatencyMeter.Reception

/-!
# Paths inside the process

A loopback path hands every message that is sent straight to a receive thread, as
if an ideal peer echoed it. Sent messages wait in a queue, in their order.

The receive thread takes a message from the queue and reads the clock, then handles
the message, then looks at the queue again. When nothing comes for a while it looks
whether it was asked to stop. Each of these is a step of its own, because the sending
thread may act in between. When the sending side is closed and the queue is empty
the stream ends and the thread with it.
-/

namespace LatencyMeter

/-- Where the receive thread of a loopback path stands. -/
inductive LoopbackPath.Point
  | receiving
  /-- A message was taken from the queue and is about to be handled. -/
  | holding (payload : Payload) (receivedAt : UInt64)
  /-- Nothing came, and the request to stop is about to be looked at. -/
  | idle
  | finished
  | crashed (cause : Cause)

/-- A path inside the process and its receive thread. -/
structure LoopbackPath (Sink : Type) where
  queue : List Payload
  senderOpen : Bool
  stopRequested : Bool
  point : LoopbackPath.Point
  inStream : Bool
  sink : Sink

namespace LoopbackPath

/-- A path on which nothing has been sent. -/
def start (sink : Sink) : LoopbackPath Sink := ⟨[], true, false, .receiving, false, sink⟩

/-- Whether the receive thread has ended, of itself or by a fault. -/
def ended (path : LoopbackPath Sink) : Bool :=
  match path.point with
  | .finished => true
  | .crashed _ => true
  | _ => false

/-- Send a message, if the sending side is open and the receive thread still runs. -/
def send (payload : Payload) (path : LoopbackPath Sink) :
    Option TransportFault × LoopbackPath Sink :=
  if path.senderOpen ∧ ¬ path.ended then
    (none, { path with queue := path.queue ++ [payload] })
  else
    (some .disconnected, path)

/-- Close the sending side. -/
def close (path : LoopbackPath Sink) : LoopbackPath Sink :=
  { path with senderOpen := false }

/-- Ask the receive thread to stop when nothing is left to receive. -/
def requestStop (path : LoopbackPath Sink) : LoopbackPath Sink :=
  { path with stopRequested := true }

/-- What joining the receive thread yields once it has ended. -/
def joined (path : LoopbackPath Sink) : Option TransportFault :=
  match path.point with
  | .crashed _ => some .receiverPanicked
  | _ => none

/-- Whether the next step of the receive thread reads the clock. -/
def takesReading (path : LoopbackPath Sink) : Bool :=
  match path.point with
  | .receiving => !path.queue.isEmpty
  | _ => false

/-- Whether there is a message for the receive thread. -/
def hasMessage (path : LoopbackPath Sink) : Bool :=
  match path.point with
  | .receiving => !path.queue.isEmpty
  | .holding _ _ => true
  | _ => false

/-- Hand events to the handler, and stand at a point afterwards unless it failed. -/
def handle (handler : Handler Sink) (events : List StreamEvent) (next : Point)
    (path : LoopbackPath Sink) : LoopbackPath Sink :=
  match Reception.deliver handler events path.sink with
  | (none, sink) => { path with sink := sink, point := next }
  | (some cause, sink) => { path with sink := sink, point := .crashed cause }

/-- One step of the receive thread, with the value of the clock should it read it. -/
def step (handler : Handler Sink) (now : UInt64) (path : LoopbackPath Sink) :
    LoopbackPath Sink :=
  match path.point with
  | .receiving =>
      match path.queue with
      | payload :: rest => { path with queue := rest, point := .holding payload now }
      | [] =>
          if path.senderOpen then
            { path with point := .idle }
          else
            path.handle handler (Reception.ofEnd path.inStream none) .finished
  | .holding payload receivedAt =>
      { path with inStream := true }.handle handler
        (Reception.ofMessage path.inStream none payload receivedAt) .receiving
  | .idle => { path with point := if path.stopRequested then .finished else .receiving }
  | .finished => path
  | .crashed _ => path

/-- The diagnostic of a receive thread that ends of itself. -/
def exitEntry : Log.Entry where
  level := .debug
  message := "loopback reflector exiting"
  fields := []

/-- How many steps the receive thread takes at most once it was asked to stop. -/
def stepsLeft (path : LoopbackPath Sink) : Nat :=
  2 * path.queue.length + 4

/-- Run the receive thread alone for a number of steps, counting its clock readings. -/
def runFor (handler : Handler Sink) (clock : Nat -> UInt64) :
    Nat -> Nat × LoopbackPath Sink -> Nat × LoopbackPath Sink
  | 0, state => state
  | steps + 1, (reads, path) =>
      let after := if path.takesReading then reads + 1 else reads
      runFor handler clock steps (after, path.step handler (clock reads))

/-- Ask the receive thread to stop and run it to its end. -/
def shutdown (handler : Handler Sink) (clock : Nat -> UInt64)
    (state : Nat × LoopbackPath Sink) : Nat × LoopbackPath Sink :=
  let (reads, path) := state
  runFor handler clock path.stepsLeft (reads, path.requestStop)

end LoopbackPath
end LatencyMeter
