import LatencyMeter.Proofs.Flight
import LatencyMeter.Proofs.Pacer.Tally

/-!
# What a successful paced run delivers

A catch-up pacer that has been used in any way before runs a plan to its end over a
transport that accepts everything. The messages it hands over are numbered on from the
count of messages sent so far, and flagged as the plan says. Nothing of an earlier message
is left in them: behind the header stands the zero filler, and the send time is zero or
the clock reading that was made right before the message was handed over.
-/

namespace LatencyMeter
namespace Trace

/-- The send times in the headers of the accepted messages. -/
def stamps (trace : Trace) : List UInt64 :=
  trace.accepted.filterMap fun message =>
    match Header.decode message with
    | .ok header => some header.sentAt
    | .error _ => none

@[simp] theorem stamps_append (first second : Trace) :
    stamps (first ++ second) = stamps first ++ stamps second := by
  simp [stamps]

end Trace

namespace Pacer
namespace CatchUp

/-- How a message is delivered after what has happened earlier in a run: it is accepted, it
has the length of all messages of the pacer and zeros behind its header, and the header
gives it the next number of the run and the flags of the plan. Its send time is the clock
reading right before it, or zero if the plan asks for no stamps. -/
structure Delivered
    (plan : Plan)
    (length first : UInt64)
    (earlier : Trace)
    (message : Payload)
    (fault : Option TransportFault) : Prop where
  accepted : fault = none
  length_eq : message.length = length.toNat
  filler : message.drop Header.size = List.replicate (length.toNat - Header.size) 0
  header : exists header,
    Header.decode message = .ok header ∧
      header.number.toNat = first.toNat + earlier.accepted.length ∧
      header.flags = (if plan.timestamp then Header.timestampFlag else 0) ∧
      if plan.timestamp then earlier.getLast? = some (.read .stamp header.sentAt)
      else header.sentAt = 0

/-- What a run asks of each message that it hands over. -/
def Deliveries (plan : Plan) (length first : UInt64) (earlier : Trace) : Occurrence -> Prop
  | .read _ _ => True
  | .attempt message fault => Delivered plan length first earlier message fault

/-- At a point of a run, all messages are delivered as planned, and if they are stamped, the
stamps are clock readings in the order in which they were made. -/
structure AsPlanned
    (plan : Plan)
    (length : UInt64)
    (station : Station)
    (point : Point) : Prop where
  obeys : point.trace.Obeys (Deliveries plan length station.flight.total)
  stamps : plan.timestamp = true -> point.trace.stamps.Sublist point.trace.readings

namespace AsPlanned

variable {confirmations : Confirmations} {plan : Plan} {length : UInt64} {station : Station}
variable {pacer : Pacer} {point next : Point}

/-- The next message of a used pacer is delivered as planned. -/
theorem delivered_launch
    (used : Used .catchUp length pacer)
    (room : station.flight.total.toNat + plan.count.toNat < 2 ^ 63)
    (tally : Tally confirmations plan station pacer.buffer point) :
    Delivered plan length station.flight.total
      (point.trace ++ point.station.stamping plan.timestamp)
      (point.message plan).bytes none := by
  obtain ⟨fits, _, zeros⟩ := used.kept
  have filler : (point.message plan).filler =
      List.replicate (length.toNat - Header.size) 0 := by
    rw [Point.message, Buffer.filler_write, tally.filler, zeros]
  have within := tally.within
  -- Confirmations lower other counters, so the count of sent messages tells the number.
  have number : (point.station.nextHeader plan.timestamp).number.toNat =
      station.flight.total.toNat + point.progress.sent.toNat := by
    rw [Station.nextHeader, tally.leads.total]
    exact Word.toNat_add_ofNat (by omega)
  exact
    { accepted := rfl
      length_eq := by
        rw [Buffer.length_bytes_eq, filler, List.length_replicate]
        omega
      filler := filler
      header := by
        refine ⟨_, point.decode_message plan, ?_, rfl, ?_⟩
        · simpa [tally.accepted] using number
        · cases stamps : plan.timestamp <;> simp [Station.stamping, Station.nextHeader] }

theorem step
    {start : UInt64}
    (used : Used .catchUp length pacer)
    (room : station.flight.total.toNat + plan.count.toNat < 2 ^ 63)
    (tally : Tally confirmations plan station pacer.buffer point)
    (asPlanned : AsPlanned plan length station point)
    (step : Step confirmations plan start point next) :
    AsPlanned plan length station next := by
  cases step with
  | look idle left => exact ⟨asPlanned.obeys, asPlanned.stamps⟩
  | launch looked missing accepts leads =>
      refine ⟨?_, ?_⟩
      · exact Station.obeys_launch _ asPlanned.obeys (fun _ _ => trivial)
          (delivered_launch used room tally)
      · intro stamped
        rw [Trace.stamps_append, Trace.readings_append]
        refine (asPlanned.stamps stamped).append ?_
        have carried : (point.launching plan none).stamps =
            [point.station.clock point.station.reads] := by
          simp [Point.launching, Trace.stamps, point.decode_message plan, Station.nextHeader,
            stamped]
        have read : (point.launching plan none).readings =
            [point.station.clock point.station.reads] := by
          simp [Point.launching, stamped]
        rw [carried, read]
  | poll looked caughtUp leads =>
      refine ⟨asPlanned.obeys.concat trivial, ?_⟩
      intro stamped
      rw [Trace.stamps_append, Trace.readings_append]
      exact (asPlanned.stamps stamped).append (List.nil_sublist _)

/-- A run of a used pacer goes as planned at all its points. -/
theorem of_reached
    (used : Used .catchUp length pacer)
    (room : station.flight.total.toNat + plan.count.toNat < 2 ^ 63)
    (reached : Reached confirmations plan station pacer.buffer point) :
    AsPlanned plan length station point := by
  obtain ⟨origin, leads, passes⟩ := reached
  induction passes with
  | refl =>
      refine ⟨(Trace.obeys_nil _).concat trivial, ?_⟩
      intro stamped
      exact List.nil_sublist _
  | tail passed step hypothesis =>
      have tally : Tally confirmations plan station pacer.buffer _ :=
        Reached.tally ⟨origin, leads, passed⟩
      exact hypothesis.step used room tally step

end AsPlanned
end CatchUp

/-- What a run of some iterations has delivered and counted, if a trace is what happened. -/
structure Delivery
    (confirmations : Confirmations)
    (plan : Plan)
    (length : UInt64)
    (before after : Station)
    (iterations : Nat)
    (trace : Trace) : Prop where
  history : after.history.toList = before.history.toList ++ trace
  /-- As many messages were accepted as planned, and no others were handed over. -/
  accepted : trace.accepted.length = plan.count.toNat
  attempts : trace.attempts = plan.count.toNat
  messages : trace.Obeys (CatchUp.Deliveries plan length before.flight.total)
  /-- The readings of the trace are those that the clock gave during the run, in order. -/
  readings : trace.readings = (List.range' before.reads trace.readings.length).map before.clock
  reads : after.reads =
    before.reads + (1 + iterations + if plan.timestamp then plan.count.toNat else 0)
  stamps : plan.timestamp = true -> trace.stamps.Sublist trace.readings
  total : after.flight.total.toNat = before.flight.total.toNat + plan.count.toNat
  outstanding : confirmations = .none ->
    after.flight.outstanding = before.flight.outstanding + Int64.ofInt plan.count.toNat
  /-- The count of unconfirmed messages has room for the plan wherever it is no larger than
  the count of sent messages. -/
  outstanding_exact : confirmations = .none ->
    before.flight.outstanding.toInt + plan.count.toNat < 2 ^ 63 ->
      after.flight.outstanding.toInt = before.flight.outstanding.toInt + plan.count.toNat

/-- A run of a catch-up pacer that was used in any way before returns the count of its plan
and delivers the plan, if it ends and the transport refuses no message. The number of its
iterations is the least bound with which it ends. -/
theorem run_delivers_plan
    (confirmations : Confirmations)
    (linkName : String)
    (steps : Nat)
    (plan : Plan)
    {length : UInt64}
    {pacer : Pacer}
    (used : Used .catchUp length pacer)
    (station : Station)
    (willing : station.Willing)
    (room : station.flight.total.toNat + plan.count.toNat < 2 ^ 63)
    (finishes : (station.runAmid confirmations (pacer.run linkName steps plan)).1.isSome) :
    exists left after iterations trace,
      station.runAmid confirmations (pacer.run linkName steps plan) =
          (some (.ok plan.count, left), after) ∧
        (forall bound,
          (station.runAmid confirmations (pacer.run linkName bound plan)).1.isSome ↔
            iterations ≤ bound) ∧
        Delivery confirmations plan length station after iterations trace := by
  obtain ⟨last, outcome, ended, after, course⟩ :=
    CatchUp.exists_run confirmations linkName steps plan used.kept.2.1 station
  have tally := course.reached.tally
  have asPlanned := CatchUp.AsPlanned.of_reached used room course.reached
  obtain ⟨leads, idle, ⟨rfl, _⟩ | ⟨rfl, all⟩⟩ := course.ends_of_willing willing
  · rw [course.runs] at finishes
    contradiction
  have runs := course.runs
  rw [Option.map_some, CatchUp.conclude, all] at runs
  have sent : last.progress.sent.toNat = plan.count.toNat := congrArg UInt64.toNat all
  rw [sent] at leads
  have polls := tally.polls
  rw [if_neg (by simp [idle])] at polls
  refine ⟨_, after, last.iterations, last.trace, runs, course.suffices_iff rfl, ?_⟩
  exact
    { history := leads.history
      accepted := tally.accepted.trans sent
      attempts := tally.attempts.trans sent
      messages := asPlanned.obeys
      readings := leads.readings
      reads := by
        rw [leads.reads, tally.readings, sent]
        omega
      stamps := asPlanned.stamps
      total := by
        rw [leads.total]
        exact Word.toNat_add_ofNat (by omega)
      outstanding := leads.outstanding
      outstanding_exact := by
        intro alone fits
        rw [leads.outstanding alone]
        exact Flight.toInt_add_ofInt fits (by omega) }

/-- After a run with stamps whose second message was refused, the pacer delivers three
messages without stamps. -/
theorem delivery_after_refused_message :
    let clock := fun reading => Word.clamp (reading * 400000000)
    let refusing :=
      Station.start clock
        (fun attempt _ => if attempt = 1 then some .disconnected else none) .empty
    let station := Station.start clock (fun _ _ => none) ⟨2, 2, 2⟩
    let created : Pacer := ⟨.catchUp, Buffer.zeroed 24 (by decide), 0⟩
    let plan : Plan := ⟨3, 2, false⟩
    exists failure pacer,
      (refusing.runAmid .none (created.run "loopback" 9 ⟨3, 2, true⟩)).1 =
          some (.error failure, pacer) ∧
        Used .catchUp 24 pacer ∧
        station.Willing ∧
        exists left after iterations trace,
          station.runAmid .none (pacer.run "loopback" 9 plan) =
              (some (.ok 3, left), after) ∧
            Delivery .none plan 24 station after iterations trace := by
  intro clock refusing station created plan
  have willing : station.Willing := fun _ _ => rfl
  have computed :
      (match (refusing.runAmid .none (created.run "loopback" 9 ⟨3, 2, true⟩)).1 with
        | some (.error _, pacer) =>
            (station.runAmid .none (pacer.run "loopback" 9 plan)).1.isSome
        | some (.ok _, _) | none => false) = true := by
    decide +kernel
  split at computed
  · next failure pacer ran =>
      have used : Used .catchUp 24 pacer := .run (.created rfl) ran
      obtain ⟨left, after, iterations, trace, runs, _, delivery⟩ :=
        run_delivers_plan .none "loopback" 9 plan used station willing (by decide) computed
      exact ⟨failure, pacer, ran, used, willing, left, after, iterations, trace, runs,
        delivery⟩
  · contradiction
  · contradiction

end Pacer
end LatencyMeter
