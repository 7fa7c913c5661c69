import LatencyMeter.Proofs.Pacer.Tally
import Mathlib.Algebra.Order.Floor.Div

/-!
# The timetable of a catch-up run

On a clock that never goes back, a catch-up run is never ahead of its schedule and never
behind it: whenever an iteration ends, exactly the messages are sent that were due by the
reading at which the iteration looked at the schedule. So no message leaves before a
reading by which it is due, and the stamp of a message is no earlier than that.
-/

namespace LatencyMeter

/-- A clock that advances by the same time from reading to reading never goes back. -/
theorem Station.forward_of_ticks
    {station : Station}
    (tick : Nat)
    (ticks : station.clock = fun reading => Word.clamp (reading * tick)) :
    station.Forward := by
  intro earlier later ordered
  rw [ticks, UInt64.le_iff_toNat_le, Word.toNat_clamp, Word.toNat_clamp]
  have further : earlier * tick ≤ later * tick := Nat.mul_le_mul_right tick ordered
  omega

namespace Pacer
namespace CatchUp

/-- What the timetable of a run that began at a clock reading asks of each occurrence. A
reading for the schedule ends the iteration that looked at the schedule with the reading
before it: exactly the messages are sent that were due then. A message, counted from zero,
is handed over after a reading by which it was due, and is stamped no earlier than that. -/
def Timetable (plan : Plan) (start : UInt64) (earlier : Trace) : Occurrence -> Prop
  | .read .schedule _ =>
      forall now, earlier.polls.getLast? = some now ->
        earlier.accepted.length =
          min plan.count.toNat
            ((now.toNat - start.toNat) * plan.rate.toNat / 1000000000 + 1)
  | .read _ _ => True
  | .attempt message _ =>
      let index := earlier.accepted.length
      (exists now, now ∈ earlier.polls ∧ start ≤ now ∧
        index * 1000000000 ≤ (now.toNat - start.toNat) * plan.rate.toNat) ∧
      (plan.timestamp = true -> exists header,
        Header.decode message = .ok header ∧
          start.toNat + (index * 1000000000) ⌈/⌉ plan.rate.toNat ≤ header.sentAt.toNat)

/-- What holds at every point of a run on a clock that never goes back: the latest reading
for the schedule is one that was made during the run, no more is sent than is due by it, and
the timetable is kept. -/
structure OnTime (plan : Plan) (station : Station) (point : Point) : Prop where
  latest : exists reading,
    station.reads ≤ reading ∧ reading < point.station.reads ∧
      point.now = station.clock reading
  due : point.progress.sent.toNat ≤
    (point.due plan (station.clock station.reads)).toNat
  obeys : point.trace.Obeys (Timetable plan (station.clock station.reads))

/-- A quotient that is rounded up is no more than a number, if the dividend is no more than
the product. -/
theorem ceilDiv_le_of_le_mul
    {dividend divisor bound : Nat}
    (enough : dividend ≤ bound * divisor) :
    dividend ⌈/⌉ divisor ≤ bound := by
  rcases Nat.eq_zero_or_pos divisor with rfl | positive
  · rw [ceilDiv_zero]
    exact Nat.zero_le bound
  · rwa [ceilDiv_le_iff_le_mul positive, Nat.mul_comm]

namespace OnTime

variable {confirmations : Confirmations} {plan : Plan} {station : Station} {buffer : Buffer}
variable {point next : Point}

theorem outset
    {origin : Station}
    (leads : Station.Leads confirmations station
      [.read .schedule (station.clock station.reads)] 0 origin) :
    OnTime plan station (outset origin (station.clock station.reads) buffer) where
  latest := ⟨station.reads, Nat.le_refl _, by simp [CatchUp.outset, leads.reads], rfl⟩
  due := Nat.zero_le _
  obeys := by
    refine (Trace.obeys_nil _).concat ?_
    intro now none
    contradiction

/-- The message that is launched next is due by the latest reading. -/
theorem timetable_launch
    (tally : Tally confirmations plan station buffer point)
    (onTime : OnTime plan station point)
    (forward : station.Forward)
    (missing : point.progress.sent < point.due plan (station.clock station.reads)) :
    Timetable plan (station.clock station.reads)
      (point.trace ++ point.station.stamping plan.timestamp)
      (.attempt (point.message plan).bytes none) := by
  obtain ⟨reading, begun, past, latest⟩ := onTime.latest
  have due := ((Schedule.lt_due_iff _ _ _ _).mp (UInt64.lt_iff_toNat_lt.mp missing)).2
  rw [Word.toNat_minus] at due
  have index : (point.trace ++ point.station.stamping plan.timestamp).accepted.length =
      point.progress.sent.toNat := by
    simpa using tally.accepted
  have started : station.clock station.reads ≤ point.now := by
    rw [latest]
    exact forward _ _ begun
  unfold Timetable
  dsimp only
  rw [index]
  refine ⟨⟨point.now, ?_, started, due⟩, ?_⟩
  · simpa using List.mem_of_getLast? tally.latest
  · intro stamps
    refine ⟨_, point.decode_message plan, ?_⟩
    have elapsed := ceilDiv_le_of_le_mul due
    have stamped : point.now ≤ station.clock point.station.reads := by
      rw [latest]
      exact forward _ _ (Nat.le_of_lt past)
    have sentAt : (point.station.nextHeader plan.timestamp).sentAt =
        station.clock point.station.reads := by
      rw [Station.nextHeader, if_pos stamps, tally.leads.clock]
    rw [sentAt]
    rw [UInt64.le_iff_toNat_le] at started stamped
    omega

/-- When no more messages are due, exactly those are sent that were due by the latest
reading. -/
theorem timetable_poll
    (tally : Tally confirmations plan station buffer point)
    (onTime : OnTime plan station point)
    (caughtUp : ¬ point.progress.sent < point.due plan (station.clock station.reads))
    (value : UInt64) :
    Timetable plan (station.clock station.reads) point.trace (.read .schedule value) := by
  intro now latest
  obtain rfl : point.now = now := Option.some.inj (tally.latest.symm.trans latest)
  have due := onTime.due
  rw [UInt64.lt_iff_toNat_lt] at caughtUp
  rw [Point.due, Schedule.toNat_due, Word.toNat_minus] at caughtUp due
  rw [tally.accepted]
  omega

theorem step
    (tally : Tally confirmations plan station buffer point)
    (onTime : OnTime plan station point)
    (forward : station.Forward)
    (step : Step confirmations plan (station.clock station.reads) point next) :
    OnTime plan station next := by
  obtain ⟨reading, begun, past, latest⟩ := onTime.latest
  cases step with
  | look idle left => exact ⟨onTime.latest, onTime.due, onTime.obeys⟩
  | launch looked missing accepts leads =>
      refine ⟨⟨reading, begun, ?_, latest⟩, ?_, ?_⟩
      · rw [leads.reads]
        omega
      · have counted : (point.launched plan).sent.toNat = point.progress.sent.toNat + 1 :=
          Word.toNat_succ_of_lt missing
        rw [counted]
        exact UInt64.lt_iff_toNat_lt.mp missing
      · exact Station.obeys_launch _ onTime.obeys (fun _ _ => trivial)
          (onTime.timetable_launch tally forward missing)
  | poll looked caughtUp leads =>
      refine ⟨⟨point.station.reads, ?_, ?_, ?_⟩, ?_, ?_⟩
      · omega
      · simp [leads.reads]
      · rw [tally.leads.clock]
      · refine Nat.le_trans onTime.due (Schedule.due_mono ?_ plan.rate plan.count)
        have advanced := forward reading point.station.reads (Nat.le_of_lt past)
        rw [← latest, ← tally.leads.clock, UInt64.le_iff_toNat_le] at advanced
        rw [UInt64.le_iff_toNat_le, Word.toNat_minus, Word.toNat_minus]
        exact Nat.sub_le_sub_right advanced _
      · exact onTime.obeys.concat (onTime.timetable_poll tally caughtUp _)

/-- A run on a clock that never goes back is on time at all its points. -/
theorem of_reached
    (forward : station.Forward)
    (reached : Reached confirmations plan station buffer point) :
    OnTime plan station point := by
  obtain ⟨origin, leads, passes⟩ := reached
  induction passes with
  | refl => exact outset leads
  | tail passed step hypothesis =>
      have tally : Tally confirmations plan station buffer _ :=
        Reached.tally ⟨origin, leads, passed⟩
      exact hypothesis.step tally forward step

end OnTime
end CatchUp

/-- Every run of a catch-up pacer on a clock that never goes back, with a transport that
refuses no message, reads the clock first and keeps the timetable of that reading all along.
It sends all messages of its plan, unless a bound on its iterations cuts it off, and then it
has made as many iterations as the bound allows. -/
theorem run_follows_timetable
    (confirmations : Confirmations)
    (linkName : String)
    (steps : Nat)
    (plan : Plan)
    (pacer : Pacer)
    (paced : pacer.pacing = .catchUp)
    (station : Station)
    (willing : station.Willing)
    (forward : station.Forward) :
    let start := station.clock station.reads
    let run := station.runAmid confirmations (pacer.run linkName steps plan)
    exists rest : Trace,
      let trace : Trace := .read .schedule start :: rest
      run.2.history.toList = station.history.toList ++ trace ∧
        trace.Obeys (CatchUp.Timetable plan start) ∧
        (run.1 = none -> trace.polls.length = steps + 1) ∧
        (run.1.isSome -> trace.accepted.length = plan.count.toNat) := by
  intro start run
  obtain ⟨last, outcome, ended, after, course⟩ :=
    CatchUp.exists_run confirmations linkName steps plan paced station
  have tally := course.reached.tally
  obtain ⟨leads, idle, ends⟩ := course.ends_of_willing willing
  obtain ⟨rest, begins⟩ := tally.begins
  have polls := tally.polls
  have ran : run = (outcome.map (CatchUp.conclude pacer), after) := course.runs
  refine ⟨rest, ?_⟩
  rw [← begins, ran]
  refine ⟨leads.history, (CatchUp.OnTime.of_reached forward course.reached).obeys, ?_, ?_⟩
  · intro cutOff
    rw [if_neg (by simp [idle]), course.exhausted (Option.map_eq_none_iff.mp cutOff)] at polls
    omega
  · intro finishes
    rcases ends with ⟨rfl, _⟩ | ⟨_, all⟩
    · contradiction
    · rw [tally.accepted, all]

/-- Two messages a second, on a clock that advances by 0.4 seconds from reading to reading. -/
theorem timetable_of_three_messages :
    let station :=
      Station.start (fun reading => Word.clamp (reading * 400000000)) (fun _ _ => none) .empty
    let plan : Plan := ⟨3, 2, true⟩
    let pacer : Pacer := ⟨.catchUp, Buffer.zeroed 24 (by decide), 0⟩
    let run := station.runAmid .none (pacer.run "loopback" 9 plan)
    pacer.pacing = .catchUp ∧ station.Willing ∧ station.Forward ∧
      exists rest : Trace,
        let trace : Trace := .read .schedule 0 :: rest
        run.2.history.toList = trace ∧
          trace.Obeys (CatchUp.Timetable plan 0) ∧ trace.accepted.length = 3 := by
  intro station plan pacer run
  have willing : station.Willing := fun _ _ => rfl
  have forward : station.Forward := Station.forward_of_ticks 400000000 rfl
  have started : station.clock station.reads = 0 := by decide
  have finishes : run.1.isSome := by decide +kernel
  obtain ⟨rest, history, obeys, _, sends⟩ :=
    run_follows_timetable .none "loopback" 9 plan pacer rfl station willing forward
  have all := sends finishes
  rw [started] at history obeys all
  exact ⟨rfl, willing, forward, rest, history, obeys, all⟩

end Pacer
end LatencyMeter
