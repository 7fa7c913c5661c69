import LatencyMeter.Error

/-!
# Messages in flight

A flight record counts the messages handed to the transport, those not yet
confirmed, and the largest number ever unconfirmed. The sending side raises its
three counters one after the other; the receiving side lowers the unconfirmed
count by one for each confirmed message. A count below zero means that the two
sides are out of step, and is a fault.
-/

namespace LatencyMeter

/-- The counters of the messages of one session. -/
structure Flight where
  /-- Messages handed to the transport. -/
  total : UInt64
  /-- Messages not yet confirmed. -/
  outstanding : Int64
  /-- The largest count of unconfirmed messages so far. -/
  peak : Int64
  deriving DecidableEq, Repr

namespace Flight

/-- No message has been sent. -/
def empty : Flight := ⟨0, 0, 0⟩

instance : Inhabited Flight := ⟨empty⟩

/-- Count one more message handed to the transport. -/
def raiseTotal (flight : Flight) : Flight :=
  { flight with total := flight.total + 1 }

/-- Count one more unconfirmed message. -/
def raiseOutstanding (flight : Flight) : Flight :=
  { flight with outstanding := flight.outstanding + 1 }

/-- Take note of a count of unconfirmed messages. -/
def raisePeak (level : Int64) (flight : Flight) : Flight :=
  { flight with peak := if flight.peak < level then level else flight.peak }

/-- Count one unconfirmed message less. -/
def lower (flight : Flight) : Flight :=
  { flight with outstanding := flight.outstanding - 1 }

@[simp] theorem total_raiseTotal (flight : Flight) :
    flight.raiseTotal.total = flight.total + 1 := rfl

@[simp] theorem outstanding_raiseTotal (flight : Flight) :
    flight.raiseTotal.outstanding = flight.outstanding := rfl

@[simp] theorem total_raiseOutstanding (flight : Flight) :
    flight.raiseOutstanding.total = flight.total := rfl

@[simp] theorem outstanding_raiseOutstanding (flight : Flight) :
    flight.raiseOutstanding.outstanding = flight.outstanding + 1 := rfl

@[simp] theorem total_raisePeak (level : Int64) (flight : Flight) :
    (flight.raisePeak level).total = flight.total := rfl

@[simp] theorem outstanding_raisePeak (level : Int64) (flight : Flight) :
    (flight.raisePeak level).outstanding = flight.outstanding := rfl

@[simp] theorem total_lower (flight : Flight) : flight.lower.total = flight.total := rfl

@[simp] theorem outstanding_lower (flight : Flight) :
    flight.lower.outstanding = flight.outstanding - 1 := rfl

@[simp] theorem peak_lower (flight : Flight) : flight.lower.peak = flight.peak := rfl

/-- Account for one message about to be handed to the transport. -/
def sent (flight : Flight) : Flight :=
  let raised := flight.raiseTotal.raiseOutstanding
  raised.raisePeak raised.outstanding

/-- Account for one confirmed message; the count is lowered even when it is a fault. -/
def confirm (flight : Flight) : Except Cause Int64 × Flight :=
  let lowered := flight.lower
  if lowered.outstanding < 0 then
    (.error (.flight lowered.outstanding), lowered)
  else
    (.ok lowered.outstanding, lowered)

@[simp] theorem snd_confirm (flight : Flight) : flight.confirm.2 = flight.lower := by
  unfold confirm
  dsimp only
  split <;> rfl

end Flight
end LatencyMeter
