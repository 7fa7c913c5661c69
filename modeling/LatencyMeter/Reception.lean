import LatencyMeter.Stream

/-!
# Reception

A receive thread turns the messages it receives into events of a stream and hands
them to a handler. The first message opens a stream. A handler may fail; then the
events after the failing one are not handed over.
-/

namespace LatencyMeter

/-- What handles the events of a stream, and may fail at one of them. -/
abbrev Handler (Sink : Type) := Sink -> StreamEvent -> Option Cause × Sink

namespace Reception

/-- The events of a message, which opens a stream unless one is open. -/
def ofMessage (inStream : Bool) (source : Option SocketAddress) (payload : Payload)
    (receivedAt : UInt64) : List StreamEvent :=
  let data := .data payload receivedAt source false
  if inStream then [data] else [.beginOfStream source, data]

/-- The events of an end, which closes the stream if one is open. -/
def ofEnd (inStream : Bool) (source : Option SocketAddress) : List StreamEvent :=
  if inStream then [.endOfStream source] else []

/-- Hand events to a handler, up to the first one at which it fails. -/
def deliver (handler : Handler Sink) : List StreamEvent -> Sink -> Option Cause × Sink
  | [], sink => (none, sink)
  | event :: rest, sink =>
      match handler sink event with
      | (none, sink) => deliver handler rest sink
      | (some cause, sink) => (some cause, sink)

@[simp] theorem deliver_nil (handler : Handler Sink) (sink : Sink) :
    deliver handler [] sink = (none, sink) := rfl

/-- A failed delivery delivers nothing more. -/
theorem deliver_append (handler : Handler Sink) (first second : List StreamEvent)
    (sink : Sink) :
    deliver handler (first ++ second) sink =
      match deliver handler first sink with
      | (none, after) => deliver handler second after
      | (some cause, after) => (some cause, after) := by
  induction first generalizing sink with
  | nil => rfl
  | cons event rest hypothesis =>
      rw [List.cons_append, deliver, deliver]
      cases handled : handler sink event with
      | mk fault after =>
          cases fault with
          | none => exact hypothesis after
          | some cause => rfl

end Reception
end LatencyMeter
