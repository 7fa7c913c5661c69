import LatencyMeter.RoundTrip
import LatencyMeter.Proofs.EchoHistory
import LatencyMeter.Proofs.Flight

/-!
# What an event does to a measurement

An event either is accepted, that is, it is a message whose number the echo window
judges to be fresh, or it leaves the flight counters and the echo window alone. The
lemmas of this module say so for each kind of event; later modules cite them and do not
look into the handling of events again.
-/

namespace LatencyMeter
namespace RoundTrip

variable {state : RoundTrip} {event : StreamEvent} {header : Header} {payload : Payload}
  {receivedAt : UInt64} {retransmit : Bool}

/-- The number that an event confirms, if it is a message whose number is fresh. -/
def accepted? (state : RoundTrip) : StreamEvent -> Option UInt64
  | .data payload _ _ _ =>
      match Header.decode payload with
      | .error _ => none
      | .ok header =>
          if (state.echoes.check header.number state.flight.total).1 = .fresh then
            some header.number
          else
            none
  | _ => none

/-! ## Messages -/

/-- A message without a header is none of ours. -/
theorem onData_foreign
    {fault : HeaderFault}
    (foreign : Header.decode payload = .error fault) :
    state.onData payload receivedAt retransmit =
      ⟨state, some (.foreign payload.length), none⟩ := by
  unfold onData
  rw [foreign]

/-- An echo that is not fresh is ignored. -/
theorem onData_known
    (decoded : Header.decode payload = .ok header)
    (known : (state.echoes.check header.number state.flight.total).1 ≠ .fresh) :
    state.onData payload receivedAt retransmit =
      state.ignore header.number
        (state.echoes.check header.number state.flight.total).1 := by
  have unchanged := EchoWindow.check_eq_self_of_ne_fresh known
  unfold onData
  rw [decoded]
  dsimp only
  generalize judged : state.echoes.check header.number state.flight.total = judgement
    at known unchanged
  obtain ⟨verdict, echoes⟩ := judgement
  obtain rfl : echoes = state.echoes := unchanged
  cases verdict with
  | fresh => exact absurd rfl known
  | duplicate => rfl
  | stale => rfl
  | unsent => rfl

/-- A fresh echo is accepted, and the window remembers it. -/
theorem onData_fresh
    (decoded : Header.decode payload = .ok header)
    (fresh : (state.echoes.check header.number state.flight.total).1 = .fresh) :
    state.onData payload receivedAt retransmit =
      ({ state with
          echoes := (state.echoes.check header.number state.flight.total).2 } :
        RoundTrip).accept header receivedAt retransmit := by
  unfold onData
  rw [decoded]
  dsimp only
  generalize state.echoes.check header.number state.flight.total = judgement at fresh
  obtain ⟨verdict, echoes⟩ := judgement
  obtain rfl : verdict = .fresh := fresh
  rfl

@[simp] theorem flight_sample :
    (state.sample header receivedAt).state.flight = state.flight := by
  unfold sample
  split
  · split <;> rfl
  · rfl

@[simp] theorem echoes_sample :
    (state.sample header receivedAt).state.echoes = state.echoes := by
  unfold sample
  split
  · split <;> rfl
  · rfl

@[simp] theorem fault_sample : (state.sample header receivedAt).fault = none := by
  unfold sample
  split
  · split <;> rfl
  · rfl

@[simp] theorem flight_accept :
    (state.accept header receivedAt retransmit).state.flight = state.flight.lower := by
  unfold accept
  have lowered := state.flight.snd_confirm
  dsimp only
  split
  · next confirmed => rw [← lowered, confirmed]
  · next confirmed => rw [flight_sample, ← lowered, confirmed]

@[simp] theorem echoes_accept :
    (state.accept header receivedAt retransmit).state.echoes = state.echoes := by
  unfold accept
  dsimp only
  split
  · rfl
  · rw [echoes_sample]

/-- Accepting an echo is a fault exactly when it leaves a count below zero. -/
theorem fault_accept :
    (state.accept header receivedAt retransmit).fault =
      if state.flight.lower.outstanding < 0 then
        some (.flight state.flight.lower.outstanding)
      else none := by
  unfold accept Flight.confirm
  dsimp only
  by_cases negative : state.flight.lower.outstanding < 0
  · rw [if_pos negative, if_pos negative]
  · rw [if_neg negative, if_neg negative]
    exact fault_sample

/-! ## Events -/

/-- An accepted event lowers the count of unconfirmed messages and marks its number. -/
theorem deliver_of_accepted
    {number : UInt64}
    (accepts : state.accepted? event = some number) :
    (state.echoes.check number state.flight.total).1 = .fresh ∧
      (state.deliver event).state.flight = state.flight.lower ∧
      (state.deliver event).state.echoes =
        (state.echoes.check number state.flight.total).2 ∧
      (0 < state.flight.outstanding.toInt -> (state.deliver event).fault = none) := by
  cases event with
  | beginOfStream source => exact absurd accepts (by simp [accepted?])
  | loss => exact absurd accepts (by simp [accepted?])
  | endOfStream source => exact absurd accepts (by simp [accepted?])
  | data payload receivedAt source retransmit =>
      simp only [accepted?] at accepts
      split at accepts
      · exact absurd accepts (by simp)
      next header decoded =>
      split at accepts
      · next fresh =>
        obtain rfl : header.number = number := Option.some.inj accepts
        rw [deliver, onData_fresh decoded fresh]
        refine ⟨fresh, flight_accept, echoes_accept, ?_⟩
        intro unconfirmed
        rw [fault_accept]
        exact if_neg (Flight.not_lower_neg state.flight unconfirmed)
      · exact absurd accepts (by simp)

/-- Any other event leaves the flight counters and the window alone and is no fault. -/
theorem deliver_of_not_accepted
    (ignores : state.accepted? event = none) :
    (state.deliver event).state.flight = state.flight ∧
      (state.deliver event).state.echoes = state.echoes ∧
      (state.deliver event).fault = none := by
  cases event with
  | beginOfStream source => exact ⟨rfl, rfl, rfl⟩
  | loss => exact ⟨rfl, rfl, rfl⟩
  | endOfStream source => exact ⟨rfl, rfl, rfl⟩
  | data payload receivedAt source retransmit =>
      simp only [accepted?] at ignores
      rw [deliver]
      split at ignores
      · next foreign =>
        rw [onData_foreign foreign]
        exact ⟨rfl, rfl, rfl⟩
      next header decoded =>
      split at ignores
      · exact absurd ignores (by simp)
      · next known =>
        rw [onData_known decoded known]
        exact ⟨rfl, rfl, rfl⟩

end RoundTrip
end LatencyMeter
