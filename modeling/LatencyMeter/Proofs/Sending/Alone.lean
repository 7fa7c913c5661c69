import LatencyMeter.Sending

/-!
# Loops that run alone

At a station nothing happens but what the loop asks for. A reading of the clock and an attempt
to hand over a message each lead to one station, at which the rest of the loop runs.
-/

namespace LatencyMeter
namespace Station

/-! ## Readings -/

/-- The station after one more reading of its clock. -/
def afterReading (station : Station) (purpose : ClockUse) : Station :=
  (answer (.clock purpose) station).2

@[simp] theorem clock_afterReading (station : Station) (purpose : ClockUse) :
    (station.afterReading purpose).clock = station.clock := rfl

@[simp] theorem link_afterReading (station : Station) (purpose : ClockUse) :
    (station.afterReading purpose).link = station.link := rfl

@[simp] theorem reads_afterReading (station : Station) (purpose : ClockUse) :
    (station.afterReading purpose).reads = station.reads + 1 := rfl

@[simp] theorem attempts_afterReading (station : Station) (purpose : ClockUse) :
    (station.afterReading purpose).attempts = station.attempts := rfl

@[simp] theorem accepted_afterReading (station : Station) (purpose : ClockUse) :
    (station.afterReading purpose).accepted = station.accepted := by
  simp [afterReading, answer, accepted, acceptedIn]

theorem run_readClock_bind
    (station : Station)
    (purpose : ClockUse)
    (next : UInt64 -> Sending α) :
    station.run (Sending.readClock purpose >>= next) =
      (station.afterReading purpose).run (next (station.clock station.reads)) := rfl

/-! ## Attempts -/

/-- The station after one more attempt to hand over a message. -/
def afterAttempt (station : Station) (message : Payload) : Station :=
  (answer (.transmit message) station).2

@[simp] theorem clock_afterAttempt (station : Station) (message : Payload) :
    (station.afterAttempt message).clock = station.clock := rfl

@[simp] theorem link_afterAttempt (station : Station) (message : Payload) :
    (station.afterAttempt message).link = station.link := rfl

@[simp] theorem reads_afterAttempt (station : Station) (message : Payload) :
    (station.afterAttempt message).reads = station.reads := rfl

@[simp] theorem attempts_afterAttempt (station : Station) (message : Payload) :
    (station.afterAttempt message).attempts = station.attempts + 1 := rfl

/-- A message is among the accepted ones exactly if the link does not refuse it. -/
theorem accepted_afterAttempt (station : Station) (message : Payload) :
    (station.afterAttempt message).accepted =
      station.accepted ++
        if (station.link station.attempts message).isNone then [message] else [] := by
  cases judged : station.link station.attempts message <;>
    simp [afterAttempt, answer, accepted, acceptedIn, judged]

theorem run_transmit_bind
    (station : Station)
    (message : Payload)
    (next : Option TransportFault -> Sending α) :
    station.run (Sending.transmit message >>= next) =
      (station.afterAttempt message).run (next (station.link station.attempts message)) := rfl

end Station
end LatencyMeter
