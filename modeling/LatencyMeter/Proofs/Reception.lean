import LatencyMeter.Reception

/-!
# Streams that are handed over

A receive thread hands a stream to its handler message by message. `Reception.begun` says
what it has handed over after some messages, without reference to the thread.
-/

namespace LatencyMeter
namespace Reception

/-- A message with its source, if it came from outside of the process, and the value of the
clock at its arrival. -/
structure Message where
  payload : Payload
  source : Option SocketAddress
  receivedAt : UInt64

/-- The event of a message. -/
def Message.event (message : Message) : StreamEvent :=
  .data message.payload message.receivedAt message.source false

/-- The events of a stream that has brought some messages and has not ended. -/
def begun : List Message -> List StreamEvent
  | [] => []
  | first :: others => .beginOfStream first.source :: (first :: others).map Message.event

/-- One more message begins the stream if it is the first. -/
theorem begun_append_singleton (messages : List Message) (message : Message) :
    begun (messages ++ [message]) =
      begun messages ++
        ofMessage (!messages.isEmpty) message.source message.payload message.receivedAt := by
  cases messages with
  | nil => rfl
  | cons first others => simp [begun, ofMessage, Message.event]

theorem loss_not_mem_begun (messages : List Message) : StreamEvent.loss ∉ begun messages := by
  cases messages with
  | nil => exact List.not_mem_nil
  | cons first others => simp [begun, Message.event]

/-! ## Handlers -/

theorem deliver_singleton (handler : Handler Sink) (sink : Sink) (event : StreamEvent) :
    deliver handler [event] sink = handler sink event := by
  rw [deliver]
  split <;> simp_all

/-- A handler that never fails handles all events. -/
theorem fst_deliver_of_unfailing
    {handler : Handler Sink}
    (unfailing : forall sink event, (handler sink event).1 = none)
    (events : List StreamEvent)
    (sink : Sink) :
    (deliver handler events sink).1 = none := by
  induction events generalizing sink with
  | nil => rfl
  | cons event rest hypothesis =>
      have handled := unfailing sink event
      rw [deliver]
      generalize handler sink event = outcome at handled
      obtain ⟨fault, after⟩ := outcome
      obtain rfl : fault = none := handled
      exact hypothesis after

end Reception
end LatencyMeter
