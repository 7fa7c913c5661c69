import LatencyMeter.Sending
import Mathlib.Algebra.Ring.Int.Defs
import Mathlib.Algebra.Ring.Nat

/-!
# Flight counters as integers

The counters of a flight record are machine words. As long as the count of unconfirmed
messages stays within reach of a word, raising and lowering it are addition and
subtraction of one, and confirming a message is no fault while one is unconfirmed.

Several threads may share the counters. Then they answer the requests of a sending
thread one at a time, and `Flight.answer` is what one request does to them.
-/

namespace LatencyMeter
namespace Flight

theorem toInt_outstanding_raiseOutstanding
    (flight : Flight)
    (room : flight.outstanding.toInt < 2 ^ 63 - 1) :
    flight.raiseOutstanding.outstanding.toInt = flight.outstanding.toInt + 1 := by
  have least := flight.outstanding.le_toInt
  rw [outstanding_raiseOutstanding, Int64.toInt_add]
  change (flight.outstanding.toInt + 1).bmod (2 ^ 64) = _
  apply Int.bmod_eq_of_le <;> omega

theorem toInt_outstanding_lower
    (flight : Flight)
    (room : -2 ^ 63 < flight.outstanding.toInt) :
    flight.lower.outstanding.toInt = flight.outstanding.toInt - 1 := by
  have greatest := flight.outstanding.toInt_lt
  rw [outstanding_lower, Int64.toInt_sub]
  change (flight.outstanding.toInt - 1).bmod (2 ^ 64) = _
  apply Int.bmod_eq_of_le <;> omega

theorem toNat_total_raiseTotal
    (flight : Flight)
    (room : flight.total.toNat < 2 ^ 64 - 1) :
    flight.raiseTotal.total.toNat = flight.total.toNat + 1 := by
  rw [total_raiseTotal, UInt64.toNat_add]
  change (flight.total.toNat + 1) % 2 ^ 64 = _
  apply Nat.mod_eq_of_lt
  omega

/-- With a message unconfirmed, confirming one leaves no count below zero. -/
theorem not_lower_neg
    (flight : Flight)
    (unconfirmed : 0 < flight.outstanding.toInt) :
    ¬ flight.lower.outstanding < 0 := by
  have lowered := toInt_outstanding_lower flight (by omega)
  rw [Int64.lt_iff_toInt_lt, lowered]
  change ¬ flight.outstanding.toInt - 1 < 0
  omega

/-- Counting several messages more is exact as long as the count fits into a word. -/
theorem toInt_add_ofInt
    {level : Int64}
    {count : Nat}
    (room : level.toInt + count < 2 ^ 63)
    (fits : count < 2 ^ 63) :
    (level + Int64.ofInt count).toInt = level.toInt + count := by
  have least := level.le_toInt
  rw [Int64.toInt_add, Int64.toInt_ofInt_of_le (by omega) (by omega)]
  apply Int.bmod_eq_of_le <;> omega

theorem toInt_outstanding_sent
    (flight : Flight)
    (room : flight.outstanding.toInt < 2 ^ 63 - 1) :
    flight.sent.outstanding.toInt = flight.outstanding.toInt + 1 :=
  toInt_outstanding_raiseOutstanding flight room

theorem toNat_total_sent
    (flight : Flight)
    (room : flight.total.toNat < 2 ^ 64 - 1) :
    flight.sent.total.toNat = flight.total.toNat + 1 :=
  toNat_total_raiseTotal flight room

/-! ## The peak -/

theorem peak_raisePeak_eq_or (level : Int64) (flight : Flight) :
    (flight.raisePeak level).peak = flight.peak ∨ (flight.raisePeak level).peak = level := by
  unfold raisePeak
  dsimp only
  split
  · exact .inr rfl
  · exact .inl rfl

theorem peak_le_peak_raisePeak (level : Int64) (flight : Flight) :
    flight.peak ≤ (flight.raisePeak level).peak := by
  unfold raisePeak
  dsimp only
  split
  · next above => exact Int64.le_of_lt above
  · exact Int64.le_refl flight.peak

theorem level_le_peak_raisePeak (level : Int64) (flight : Flight) :
    level ≤ (flight.raisePeak level).peak := by
  unfold raisePeak
  dsimp only
  split
  · exact Int64.le_refl level
  · next below => exact Int64.not_lt.mp below

/-- Counting a message reports the count of unconfirmed messages that it has led to. -/
theorem peak_sent (flight : Flight) :
    flight.sent.peak = (flight.raisePeak flight.sent.outstanding).peak := rfl

end Flight

/-! ## Shared counters -/

/-- What the surroundings of a sending thread decide: what its clock says, and whether
the transport refuses its message. -/
structure Sending.Choice where
  now : UInt64
  refusal : Option TransportFault

/-- How often a request raises the count of unconfirmed messages. -/
def Sending.Request.raises : Sending.Request -> Nat
  | .raiseOutstanding => 1
  | _ => 0

/-- Counting a message takes three requests. -/
theorem Sending.countSent_eq :
    countSent =
      .ask .raiseTotal fun _ =>
        .ask .raiseOutstanding fun level => .ask (.raisePeak level) .done := rfl

namespace Flight

/-- Answer a request of a sending thread from shared counters. -/
def answer (choice : Sending.Choice) :
    (request : Sending.Request) -> Flight -> request.Answer × Flight
  | .clock _, flight => (choice.now, flight)
  | .total, flight => (flight.total, flight)
  | .raiseTotal, flight => ((), flight.raiseTotal)
  | .raiseOutstanding, flight =>
      let raised := flight.raiseOutstanding
      (raised.outstanding, raised)
  | .raisePeak level, flight => ((), flight.raisePeak level)
  | .peak, flight => (flight.peak, flight)
  | .transmit _, flight => (choice.refusal, flight)
  | .wait _, flight => ((), flight)
  | .note _, flight => ((), flight)

/-- A station answers as its counters do, with the clock and the link of the station. -/
theorem station_answer_eq (request : Sending.Request) (station : Station) :
    exists choice : Sending.Choice,
      ((Station.answer request station).1, (Station.answer request station).2.flight) =
        answer choice request station.flight := by
  cases request with
  | transmit message =>
      exact ⟨⟨0, station.link station.attempts message⟩, rfl⟩
  | _ => exact ⟨⟨station.clock station.reads, none⟩, rfl⟩

/-- Only the request that raises the count of unconfirmed messages changes it. -/
theorem outstanding_answer
    (choice : Sending.Choice)
    (request : Sending.Request)
    (flight : Flight) :
    (answer choice request flight).2.outstanding =
      flight.outstanding + Int64.ofInt request.raises := by
  cases request with
  | raiseOutstanding => rfl
  | _ => exact (Int64.add_zero flight.outstanding).symm

end Flight
end LatencyMeter
