import LatencyMeter.Proofs.Flight
import LatencyMeter.Proofs.Header
import LatencyMeter.Proofs.Sending.Trace
import Mathlib.Logic.Function.Iterate

/-!
# Sending loops amid confirmations

While a sending loop runs at a station, a receive thread that shares the flight counters
may confirm messages at any moment. So the requests of the loop are answered here amid
confirmations: any number of them come in before each request, and how many may depend
on everything that has happened. They lower the count of unconfirmed messages and change
nothing else.

A stretch of a run leads a station on: the clock and the link stay the same, the history
grows by a trace, and some messages are counted as sent.
-/

namespace LatencyMeter

/-- How many confirmations come in before a request is answered. -/
abbrev Confirmations := Sending.Request -> Station -> Nat

/-- None ever comes in. -/
def Confirmations.none : Confirmations := fun _ _ => 0

namespace Flight

/-- Confirm several messages. -/
def confirmAll (count : Nat) : Flight -> Flight := (fun flight => flight.confirm.2)^[count]

@[simp] theorem total_confirmAll (count : Nat) (flight : Flight) :
    (flight.confirmAll count).total = flight.total := by
  unfold confirmAll
  induction count with
  | zero => rfl
  | succ count hypothesis =>
      rw [Function.iterate_succ_apply', snd_confirm, total_lower, hypothesis]

end Flight

namespace Station

/-- The station after the confirmations that come in before a request. -/
def amid
    (confirmations : Confirmations)
    (request : Sending.Request)
    (station : Station) :
    Station :=
  { station with flight := station.flight.confirmAll (confirmations request station) }

/-- Answer one request after the confirmations that come in before it. -/
def answerAmid
    (confirmations : Confirmations)
    (request : Sending.Request)
    (station : Station) :
    request.Answer × Station :=
  answer request (station.amid confirmations request)

/-- The transport refuses no message. -/
def Willing (station : Station) : Prop :=
  forall attempt message, station.link attempt message = none

/-- The clock never goes back. -/
def Forward (station : Station) : Prop :=
  forall earlier later, earlier ≤ later -> station.clock earlier ≤ station.clock later

/-- Run a sending loop at a station amid confirmations. -/
def runAmid
    (confirmations : Confirmations)
    (station : Station)
    (program : Sending α) :
    Option α × Station :=
  Program.run (answerAmid confirmations) program station

/-- Where no confirmation comes in, the loop runs alone. -/
theorem runAmid_none (station : Station) (program : Sending α) :
    station.runAmid .none program = station.run program := rfl

@[simp] theorem runAmid_pure
    (confirmations : Confirmations)
    (station : Station)
    (result : α) :
    station.runAmid confirmations (pure result) = (some result, station) := rfl

@[simp] theorem runAmid_unfinished (confirmations : Confirmations) (station : Station) :
    station.runAmid confirmations (.unfinished : Sending α) = (none, station) := rfl

/-- After a program that ends, the next one runs where it ended. -/
theorem runAmid_bind
    {confirmations : Confirmations}
    {station after : Station}
    {program : Sending α}
    {result : α}
    (ends : station.runAmid confirmations program = (some result, after))
    (next : α -> Sending β) :
    station.runAmid confirmations (program >>= next) =
      after.runAmid confirmations (next result) := by
  unfold runAmid at ends ⊢
  rw [Program.run_bind, ends]

/-- After a program that is cut off, nothing more runs. -/
theorem runAmid_bind_of_none
    {confirmations : Confirmations}
    {station after : Station}
    {program : Sending α}
    (cutOff : station.runAmid confirmations program = (none, after))
    (next : α -> Sending β) :
    station.runAmid confirmations (program >>= next) = (none, after) := by
  unfold runAmid at cutOff ⊢
  rw [Program.run_bind, cutOff]

/-! ## Stretches of a run -/

/-- A stretch of a run that made a trace and counted some messages. -/
structure Leads
    (confirmations : Confirmations)
    (before : Station)
    (trace : Trace)
    (counted : Nat)
    (after : Station) : Prop where
  clock : after.clock = before.clock
  link : after.link = before.link
  reads : after.reads = before.reads + trace.readings.length
  readings : trace.readings = (List.range' before.reads trace.readings.length).map before.clock
  attempts : after.attempts = before.attempts + trace.attempts
  history : after.history.toList = before.history.toList ++ trace
  total : after.flight.total = before.flight.total + UInt64.ofNat counted
  outstanding : confirmations = .none ->
    after.flight.outstanding = before.flight.outstanding + Int64.ofInt counted

section Stretches

variable {confirmations : Confirmations}

theorem Leads.refl (station : Station) : Leads confirmations station [] 0 station where
  clock := rfl
  link := rfl
  reads := rfl
  readings := rfl
  attempts := rfl
  history := (List.append_nil _).symm
  total := (UInt64.add_zero _).symm
  outstanding := fun _ => (Int64.add_zero _).symm

theorem Leads.trans
    {before middle after : Station}
    {first second : Trace}
    {counted more : Nat}
    (begins : Leads confirmations before first counted middle)
    (goesOn : Leads confirmations middle second more after) :
    Leads confirmations before (first ++ second) (counted + more) after where
  clock := goesOn.clock.trans begins.clock
  link := goesOn.link.trans begins.link
  reads := by
    rw [goesOn.reads, begins.reads, Trace.readings_append, List.length_append, Nat.add_assoc]
  readings := by
    have continued := goesOn.readings
    rw [begins.clock, begins.reads] at continued
    rw [Trace.readings_append, List.length_append, ← List.range'_append_1, List.map_append,
      ← begins.readings, ← continued]
  attempts := by
    rw [goesOn.attempts, begins.attempts, Trace.attempts_append, Nat.add_assoc]
  history := by rw [goesOn.history, begins.history, List.append_assoc]
  total := by rw [goesOn.total, begins.total, UInt64.ofNat_add, UInt64.add_assoc]
  outstanding := by
    intro alone
    rw [goesOn.outstanding alone, begins.outstanding alone, Int.natCast_add, Int64.ofInt_add,
      Int64.add_assoc]

/-- Confirmations and a request that leaves the counters as they are lead on by what the
request leaves in the history. -/
theorem leads_recorded
    (confirmations : Confirmations)
    (request : Sending.Request)
    (station : Station)
    (occurred : Trace)
    (history : Array Occurrence)
    (log : Array Log.Entry)
    (readings : occurred.readings =
      (List.range' station.reads occurred.readings.length).map station.clock)
    (recorded : history.toList = station.history.toList ++ occurred) :
    Leads confirmations station occurred 0
      { station.amid confirmations request with
        reads := station.reads + occurred.readings.length
        attempts := station.attempts + occurred.attempts
        history := history
        log := log } where
  clock := rfl
  link := rfl
  reads := rfl
  readings := readings
  attempts := rfl
  history := recorded
  total := by
    rw [amid, Flight.total_confirmAll]
    exact (UInt64.add_zero _).symm
  outstanding := by
    rintro rfl
    exact (Int64.add_zero _).symm

/-- Confirmations alone leave no trace. -/
theorem leads_amid
    (confirmations : Confirmations)
    (request : Sending.Request)
    (station : Station) :
    Leads confirmations station [] 0 (station.amid confirmations request) :=
  leads_recorded confirmations request station [] station.history station.log rfl
    (List.append_nil _).symm

end Stretches

/-! ## One message -/

variable (confirmations : Confirmations) (station : Station)

theorem runAmid_readClock (purpose : ClockUse) :
    exists after,
      station.runAmid confirmations (Sending.readClock purpose) =
          (some (station.clock station.reads), after) ∧
        Leads confirmations station [.read purpose (station.clock station.reads)] 0 after :=
  ⟨_, rfl, leads_recorded confirmations (.clock purpose) station _ _ _ rfl Array.toList_push⟩

theorem runAmid_transmit (message : Payload) :
    exists after,
      station.runAmid confirmations (Sending.transmit message) =
          (some (station.link station.attempts message), after) ∧
        Leads confirmations station
          [.attempt message (station.link station.attempts message)] 0 after :=
  ⟨_, rfl, leads_recorded confirmations (.transmit message) station _ _ _ rfl
    Array.toList_push⟩

theorem runAmid_nextNumber :
    exists after,
      station.runAmid confirmations Sending.nextNumber =
          (some station.flight.total, after) ∧
        Leads confirmations station [] 0 after := by
  refine ⟨station.amid confirmations .total, ?_, leads_amid confirmations .total station⟩
  have told := Flight.total_confirmAll (confirmations .total station) station.flight
  exact congrArg (fun number => (some number, station.amid confirmations .total)) told

theorem runAmid_note (entry : Log.Entry) :
    exists after,
      station.runAmid confirmations (Sending.note entry) = (some (), after) ∧
        Leads confirmations station [] 0 after :=
  ⟨_, rfl, leads_recorded confirmations (.note entry) station [] station.history _ rfl
    (List.append_nil _).symm⟩

/-- Reporting a refused message asks for the peak and writes a diagnostic. -/
theorem runAmid_refused
    (linkName : String)
    (stage : Stage)
    (sent largest : UInt64)
    (fault : TransportFault) :
    exists after,
      station.runAmid confirmations (Sending.refused linkName stage sent largest fault) =
          (some ((Failure.ofCause (.transport fault)).within stage), after) ∧
        Leads confirmations station [] 0 after := by
  have asked := leads_amid confirmations .peak station
  obtain ⟨after, notes, noted⟩ :=
    runAmid_note confirmations (station.amid confirmations .peak)
      { level := .error
        message := linkName ++ " send failed"
        fields :=
          [("num_sent", wordText sent), ("max_tight_sends", wordText largest),
            ("max_flight_size",
              signedText (station.amid confirmations .peak).flight.peak)] }
  refine ⟨after, ?_, asked.trans noted⟩
  exact runAmid_bind notes _

/-- Counting a message takes three requests, and confirmations may come in before each. -/
theorem runAmid_countSent_eq :
    exists first second third level,
      station.runAmid confirmations Sending.countSent =
          (some (),
            { station with
              flight :=
                ((((((station.flight.confirmAll first).raiseTotal).confirmAll
                  second).raiseOutstanding).confirmAll third).raisePeak level) }) ∧
        (confirmations = .none -> first = 0 ∧ second = 0 ∧ third = 0) := by
  refine ⟨_, _, _, _, rfl, ?_⟩
  rintro rfl
  exact ⟨rfl, rfl, rfl⟩

theorem runAmid_countSent :
    exists after,
      station.runAmid confirmations Sending.countSent = (some (), after) ∧
        Leads confirmations station [] 1 after := by
  obtain ⟨first, second, third, level, counted, alone⟩ :=
    runAmid_countSent_eq confirmations station
  refine ⟨_, counted, ?_⟩
  exact
    { clock := rfl
      link := rfl
      reads := rfl
      readings := rfl
      attempts := rfl
      history := (List.append_nil _).symm
      total := by
        simp only [Flight.total_raisePeak, Flight.total_confirmAll,
          Flight.total_raiseOutstanding, Flight.total_raiseTotal]
        rfl
      outstanding := by
        intro silent
        obtain ⟨rfl, rfl, rfl⟩ := alone silent
        rfl }

/-- The header of the message that a launch at the station makes. -/
def nextHeader (timestamp : Bool) (station : Station) : Header :=
  ⟨station.flight.total, if timestamp then station.clock station.reads else 0,
    Sending.flagsFor timestamp⟩

/-- The clock reading that a launch at the station makes for the stamp. -/
def stamping (timestamp : Bool) (station : Station) : Trace :=
  if timestamp then [.read .stamp (station.clock station.reads)] else []

/-- The clock readings of a launch. -/
@[simp] theorem readings_stamping (timestamp : Bool) :
    (station.stamping timestamp).readings =
      if timestamp then [station.clock station.reads] else [] := by
  cases timestamp <;> rfl

@[simp] theorem polls_stamping (timestamp : Bool) :
    (station.stamping timestamp).polls = [] := by
  cases timestamp <;> rfl

@[simp] theorem accepted_stamping (timestamp : Bool) :
    (station.stamping timestamp).accepted = [] := by
  cases timestamp <;> rfl

@[simp] theorem attempts_stamping (timestamp : Bool) :
    (station.stamping timestamp).attempts = 0 := by
  cases timestamp <;> rfl

/-- A trace that obeys a law may go on with a launch, if the law says nothing of stamps and
the message meets it. -/
theorem obeys_launch
    {law : Trace -> Occurrence -> Prop}
    {trace : Trace}
    {timestamp : Bool}
    {message : Payload}
    {fault : Option TransportFault}
    (obeys : trace.Obeys law)
    (silent : forall earlier value, law earlier (.read .stamp value))
    (meets : law (trace ++ station.stamping timestamp) (.attempt message fault)) :
    Trace.Obeys law (trace ++ (station.stamping timestamp ++ [.attempt message fault])) := by
  rw [← List.append_assoc]
  refine Trace.Obeys.concat ?_ meets
  cases timestamp with
  | true => exact obeys.concat (silent _ _)
  | false => simpa [stamping] using obeys

/-- A launch numbers its message by the count of sent messages, reads the clock last,
and hands the message over once. -/
theorem runAmid_launch (timestamp : Bool) (buffer : Buffer) :
    let message := buffer.write (station.nextHeader timestamp)
    let fault := station.link station.attempts message.bytes
    exists after,
      station.runAmid confirmations (Sending.launch timestamp buffer) =
          (some (fault, message), after) ∧
        Leads confirmations station
          (station.stamping timestamp ++ [.attempt message.bytes fault]) 1 after := by
  intro message fault
  obtain ⟨numbered, asks, numbers⟩ := runAmid_nextNumber confirmations station
  obtain ⟨counted, counts, raises⟩ := runAmid_countSent confirmations numbered
  have prepares := numbers.trans raises
  have clock := prepares.clock
  have reads : counted.reads = station.reads := prepares.reads
  have link := prepares.link
  have attempts : counted.attempts = station.attempts := prepares.attempts
  unfold Sending.launch
  rw [runAmid_bind asks, runAmid_bind counts]
  cases timestamp with
  | true =>
      obtain ⟨stamped, looks, stamps⟩ := runAmid_readClock confirmations counted .stamp
      rw [clock, reads] at looks stamps
      have written : (buffer.write ⟨station.flight.total, 0, Sending.flagsFor true⟩).stamp
          (station.clock station.reads) = message := Buffer.stamp_write _ _ buffer
      obtain ⟨after, hands, sends⟩ := runAmid_transmit confirmations stamped message.bytes
      have outcome : stamped.link stamped.attempts message.bytes = fault := by
        have further : stamped.attempts = counted.attempts := stamps.attempts
        rw [stamps.link, link, further, attempts]
      rw [outcome] at hands sends
      refine ⟨after, ?_, (prepares.trans stamps).trans sends⟩
      rw [if_pos rfl, runAmid_bind looks]
      dsimp only
      rw [written, runAmid_bind hands, runAmid_pure]
  | false =>
      obtain ⟨after, hands, sends⟩ := runAmid_transmit confirmations counted message.bytes
      have outcome : counted.link counted.attempts message.bytes = fault := by
        rw [link, attempts]
      rw [outcome] at hands sends
      refine ⟨after, ?_, prepares.trans sends⟩
      rw [if_neg Bool.false_ne_true]
      exact runAmid_bind hands _

end Station
end LatencyMeter
