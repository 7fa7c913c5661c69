import LatencyMeter.Reflector

/-!
# What a reflector forwards

A reflector hands to its transport only messages that it has just received, unchanged
and at most once each. It hands over nothing on other events.
-/

namespace LatencyMeter
namespace Reflection

/-- The echoes of an event that the transport accepted. -/
def forwarded (state : Reflection) (event : StreamEvent) : List Payload :=
  (state.deliver event).state.echoed.toList.drop state.echoed.size

/-- A message is echoed unless an echo has failed before or this one does. -/
theorem echoed_onData (state : Reflection) (payload : Payload) (retransmit : Bool) :
    (state.onData payload retransmit).state.echoed.toList =
      state.echoed.toList ++
        if state.failed = false ∧ state.link state.attempts payload = none then [payload]
        else [] := by
  unfold onData
  dsimp only
  cases failed : state.failed with
  | true => simp
  | false =>
      cases refusal : state.link state.attempts payload with
      | none => simp
      | some fault => simp

theorem forwarded_data
    (state : Reflection)
    (payload : Payload)
    (receivedAt : UInt64)
    (source : Option SocketAddress)
    (retransmit : Bool) :
    state.forwarded (.data payload receivedAt source retransmit) =
      if state.failed = false ∧ state.link state.attempts payload = none then [payload]
      else [] := by
  unfold forwarded deliver
  dsimp only
  rw [echoed_onData]
  exact List.drop_left' Array.length_toList

/-- Whatever is forwarded is the message that was received. -/
theorem eq_of_forwarded
    {state : Reflection}
    {payload echo : Payload}
    {receivedAt : UInt64}
    {source : Option SocketAddress}
    {retransmit : Bool}
    (forwards : echo ∈ state.forwarded (.data payload receivedAt source retransmit)) :
    echo = payload := by
  rw [forwarded_data] at forwards
  split at forwards
  · exact List.mem_singleton.mp forwards
  · exact absurd forwards List.not_mem_nil

/-- Earlier echoes stay as they were, and the forwarded ones come after them. -/
theorem echoed_deliver (state : Reflection) (event : StreamEvent) :
    (state.deliver event).state.echoed.toList =
      state.echoed.toList ++ state.forwarded event := by
  cases event with
  | beginOfStream source => simp [deliver, forwarded]
  | loss => simp [deliver, forwarded]
  | endOfStream source => simp [deliver, forwarded]
  | data payload receivedAt source retransmit =>
      rw [forwarded_data]
      exact echoed_onData state payload retransmit

end Reflection
end LatencyMeter
