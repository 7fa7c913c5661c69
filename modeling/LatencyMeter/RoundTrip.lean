import LatencyMeter.EchoWindow
import LatencyMeter.Flight
import LatencyMeter.Header
import LatencyMeter.Histogram
import LatencyMeter.Stream

/-!
# Round trips

The receiving side of a measurement turns echoes into samples. An echo of a
message that was sent and not yet confirmed confirms it, and if the message
carries its send time the interval until the echo arrived is recorded. Any other
echo is counted as ignored and touches neither the flight counters nor the
histogram; a payload without a header touches nothing at all.

`RoundTrip` is the measurement and `Listener` the measurement together with its
reporter: what the reporter does never changes the measurement.
-/

namespace LatencyMeter

/-- The receiving side of a measurement. -/
structure RoundTrip where
  flight : Flight
  echoes : EchoWindow
  histogram : Histogram
  counts : ReceiveCounts

/-- What is worth a diagnostic while echoes are handled. -/
inductive RoundTrip.Notice
  | foreign (length : Nat)
  | ignored (number : UInt64) (verdict : EchoVerdict) (total : UInt64)
  | rejected (number : UInt64) (fault : HistogramFault)
  deriving DecidableEq, Repr

/-- The diagnostic of a notice. -/
def RoundTrip.Notice.entry : RoundTrip.Notice -> Log.Entry
  | .foreign length =>
      { level := .warning
        message := "ignoring foreign message"
        fields :=
          [("len", String.ofList (Nat.toDigits 10 length)),
            ("error", (HeaderFault.noHeader length).message)] }
  | .ignored number verdict total =>
      { level := .warning
        message := "ignoring echo that matches no outstanding message"
        fields :=
          [("msg_num", wordText number), ("reason", verdict.name),
            ("ignored", wordText total)] }
  | .rejected number fault =>
      { level := .warning
        message := "rejected round-trip sample"
        fields := [("msg_num", wordText number), ("error", fault.message)] }

/-- A measurement after an event, with what is worth a diagnostic and what went wrong. -/
structure RoundTrip.Step where
  state : RoundTrip
  notice : Option RoundTrip.Notice
  fault : Option Cause

namespace RoundTrip

/-- A measurement in which nothing has happened. -/
def start (histogram : Histogram) : RoundTrip :=
  ⟨Flight.empty, EchoWindow.empty, histogram, ReceiveCounts.zero⟩

/-- Whether a number is a power of two. -/
def isPowerOfTwo (number : UInt64) : Bool :=
  number != 0 && number &&& (number - 1) == 0

/-- Count an echo that confirms no message; only ever rarer ones are worth a diagnostic. -/
def ignore (state : RoundTrip) (number : UInt64) (verdict : EchoVerdict) : Step :=
  let counts := state.counts.addIgnored
  { state := { state with counts := counts }
    notice :=
      if isPowerOfTwo counts.ignored then some (.ignored number verdict counts.ignored)
      else none
    fault := none }

/-- Record the round trip of a confirmed message, if the message is to be recorded. -/
def sample (state : RoundTrip) (header : Header) (receivedAt : UInt64) : Step :=
  if header.isTimestamped then
    match state.histogram.recordInterval header.sentAt receivedAt with
    | .ok histogram => ⟨{ state with histogram := histogram }, none, none⟩
    | .error fault =>
        ⟨{ state with counts := state.counts.addRejected },
          some (.rejected header.number fault), none⟩
  else
    ⟨state, none, none⟩

/-- Confirm a message whose echo came for the first time. -/
def accept (state : RoundTrip) (header : Header) (receivedAt : UInt64) (retransmit : Bool) :
    Step :=
  let counted := { state with counts := state.counts.addMessage retransmit }
  match counted.flight.confirm with
  | (.error fault, flight) => ⟨{ counted with flight := flight }, none, some fault⟩
  | (.ok _, flight) => { counted with flight := flight }.sample header receivedAt

/-- Handle one message. -/
def onData (state : RoundTrip) (payload : Payload) (receivedAt : UInt64) (retransmit : Bool) :
    Step :=
  match Header.decode payload with
  | .error _ => ⟨state, some (.foreign payload.length), none⟩
  | .ok header =>
      match state.echoes.check header.number state.flight.total with
      | (.fresh, echoes) =>
          { state with echoes := echoes }.accept header receivedAt retransmit
      | (verdict, echoes) => { state with echoes := echoes }.ignore header.number verdict

/-- Handle one event of the stream. -/
def deliver (state : RoundTrip) : StreamEvent -> Step
  | .beginOfStream _ => ⟨{ state with counts := ReceiveCounts.zero }, none, none⟩
  | .data payload receivedAt _ retransmit => state.onData payload receivedAt retransmit
  | .loss => ⟨{ state with counts := state.counts.addLoss }, none, none⟩
  | .endOfStream _ => ⟨state, none, none⟩

/-- Account for one message about to be sent. -/
def sent (state : RoundTrip) : RoundTrip :=
  { state with flight := state.flight.sent }

/-- Forget all samples. -/
def resetSamples (state : RoundTrip) : RoundTrip :=
  { state with histogram := state.histogram.reset }

end RoundTrip

/-- A measurement and its reporter. -/
structure Listener where
  roundTrip : RoundTrip
  reporter : Reporter

namespace Listener

/-- Handle one event of the stream; a fault stops the receive thread. -/
def deliver (listener : Listener) (event : StreamEvent) : Option Cause × Listener :=
  let step := listener.roundTrip.deliver event
  let attended := listener.reporter.attend listener.roundTrip.counts event
  let reporter :=
    match step.notice with
    | none => attended
    | some notice => attended.note notice.entry
  (step.fault, ⟨step.state, reporter⟩)

@[simp] theorem roundTrip_deliver (listener : Listener) (event : StreamEvent) :
    (listener.deliver event).2.roundTrip = (listener.roundTrip.deliver event).state := rfl

@[simp] theorem fst_deliver (listener : Listener) (event : StreamEvent) :
    (listener.deliver event).1 = (listener.roundTrip.deliver event).fault := rfl

end Listener
end LatencyMeter
