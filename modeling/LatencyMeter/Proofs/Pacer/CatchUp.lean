import LatencyMeter.Pacer
import LatencyMeter.Proofs.Sending.Amid
import LatencyMeter.Proofs.Word
import Mathlib.Logic.Relation

/-!
# The catch-up loop as a system of steps

A run of a catch-up pacer passes from point to point. At a point between two iterations
it looks at the schedule, if messages are left. It then launches messages one by one
until no more are due, and at last reads the clock again, which ends the iteration.

These are all the steps there are: a run with any bound on its iterations, at any station
and amid any confirmations, passes through points by steps and ends at the last of them in
one of three ways. So what every step preserves holds of every run. The number of
iterations that a run takes is the least bound with which it ends.
-/

namespace LatencyMeter
namespace Pacer
namespace CatchUp

open Relation

/-- A moment of a run of a catch-up pacer, between two of its steps. -/
structure Point where
  station : Station
  /-- What has happened since the run began. -/
  trace : Trace
  /-- How often the schedule was looked at. -/
  iterations : Nat
  /-- The latest clock reading that was made for the schedule. -/
  now : UInt64
  /-- Whether the schedule was looked at with this reading. -/
  looked : Bool
  progress : Progress

namespace Point

variable (plan : Plan) (start : UInt64) (point : Point)

/-- How many messages of the run are due by the latest reading. -/
def due : UInt64 := Schedule.due (Word.minus point.now start) plan.rate plan.count

/-- The progress once the schedule was looked at. -/
def looking : Progress :=
  let missing := Word.minus (point.due plan start) point.progress.sent
  { point.progress with
    largest := if point.progress.largest < missing then missing else point.progress.largest }

/-- The next message. -/
def message : Buffer :=
  point.progress.buffer.write (point.station.nextHeader plan.timestamp)

theorem decode_message :
    Header.decode (point.message plan).bytes =
      .ok (point.station.nextHeader plan.timestamp) :=
  Header.decode_atFront _ point.progress.buffer.fits

/-- What happens when the next message is launched. -/
def launching (fault : Option TransportFault) : Trace :=
  point.station.stamping plan.timestamp ++ [.attempt (point.message plan).bytes fault]

/-- The progress once the next message was accepted. -/
def launched : Progress :=
  { point.progress with sent := point.progress.sent + 1, buffer := point.message plan }

/-- The result of a run whose next message is refused. -/
def failure (fault : TransportFault) : Option Failure × Progress :=
  (some ((Failure.ofCause (.transport fault)).within .pacedLoop),
    { point.progress with buffer := point.message plan })

end Point

/-- What a run of a catch-up pacer can do next, except to end. -/
inductive Step (confirmations : Confirmations) (plan : Plan) (start : UInt64) :
    Point -> Point -> Prop
  | look {point : Point}
      (idle : point.looked = false)
      (left : point.progress.sent < plan.count) :
      Step confirmations plan start point
        { point with
          iterations := point.iterations + 1
          looked := true
          progress := point.looking plan start }
  | launch {point : Point} {after : Station}
      (looked : point.looked = true)
      (missing : point.progress.sent < point.due plan start)
      (accepts : point.station.link point.station.attempts (point.message plan).bytes = none)
      (leads : Station.Leads confirmations point.station (point.launching plan none) 1 after) :
      Step confirmations plan start point
        { point with
          station := after
          trace := point.trace ++ point.launching plan none
          progress := point.launched plan }
  | poll {point : Point} {after : Station}
      (looked : point.looked = true)
      (caughtUp : ¬ point.progress.sent < point.due plan start)
      (leads : Station.Leads confirmations point.station
        [.read .schedule (point.station.clock point.station.reads)] 0 after) :
      Step confirmations plan start point
        { point with
          station := after
          trace := point.trace ++ [.read .schedule (point.station.clock point.station.reads)]
          now := point.station.clock point.station.reads
          looked := false }

/-- The transport refuses the next message. -/
structure Refusal
    (confirmations : Confirmations)
    (plan : Plan)
    (start : UInt64)
    (point : Point)
    (fault : TransportFault)
    (after : Station) : Prop where
  looked : point.looked = true
  missing : point.progress.sent < point.due plan start
  refuses : point.station.link point.station.attempts (point.message plan).bytes = some fault
  leads : Station.Leads confirmations point.station (point.launching plan (some fault)) 1 after

/-- How a burst can end at a point, with which result and at which station: no more messages
are due, or one is refused. -/
inductive BurstEnding (confirmations : Confirmations) (plan : Plan) (start : UInt64)
    (point : Point) : Option Failure × Progress -> Station -> Prop
  | caughtUp
      (looked : point.looked = true)
      (caughtUp : ¬ point.progress.sent < point.due plan start) :
      BurstEnding confirmations plan start point (none, point.progress) point.station
  | refused {fault : TransportFault} {after : Station}
      (refusal : Refusal confirmations plan start point fault after) :
      BurstEnding confirmations plan start point (point.failure plan fault) after

/-- How a loop can end at a point, with which result and at which station: its bound cuts
it off, all messages are sent, or one is refused. -/
inductive Ending (confirmations : Confirmations) (plan : Plan) (start : UInt64)
    (point : Point) : Option (Option Failure × Progress) -> Station -> Prop
  | cutOff
      (idle : point.looked = false)
      (left : point.progress.sent < plan.count) :
      Ending confirmations plan start point none point.station
  | finished
      (idle : point.looked = false)
      (complete : ¬ point.progress.sent < plan.count) :
      Ending confirmations plan start point (some (none, point.progress)) point.station
  | refused {fault : TransportFault} {after : Station}
      (refusal : Refusal confirmations plan start point fault after) :
      Ending confirmations plan start point (some (point.failure plan fault)) after

/-! ## What the loops do -/

section Loops

variable {confirmations : Confirmations} {plan : Plan} {start : UInt64}

/-- At a point, a launch hands over the next message. -/
theorem exists_launch
    (confirmations : Confirmations)
    (plan : Plan)
    (point : Point) :
    exists after,
      point.station.runAmid confirmations
          (Sending.launch plan.timestamp point.progress.buffer) =
          (some (point.station.link point.station.attempts (point.message plan).bytes,
            point.message plan), after) ∧
        Station.Leads confirmations point.station
          (point.launching plan
            (point.station.link point.station.attempts (point.message plan).bytes)) 1 after :=
  Station.runAmid_launch confirmations point.station plan.timestamp point.progress.buffer

/-- The messages of a burst are launched one by one, until no more are due or one is
refused. -/
theorem burst_passes
    (confirmations : Confirmations)
    (plan : Plan)
    (start : UInt64)
    (linkName : String)
    (remaining : Nat)
    (point : Point)
    (looked : point.looked = true)
    (owes : remaining = (point.due plan start).toNat - point.progress.sent.toNat) :
    exists last outcome after,
      point.station.runAmid confirmations
          (burst linkName plan.timestamp remaining point.progress) = (some outcome, after) ∧
        ReflTransGen (Step confirmations plan start) point last ∧
        last.iterations = point.iterations ∧
        BurstEnding confirmations plan start last outcome after := by
  induction remaining generalizing point with
  | zero =>
      have caughtUp : ¬ point.progress.sent < point.due plan start := by
        rw [UInt64.lt_iff_toNat_lt]
        omega
      exact ⟨point, _, _, rfl, .refl, rfl, .caughtUp looked caughtUp⟩
  | succ remaining hypothesis =>
      have missing : point.progress.sent < point.due plan start := by
        rw [UInt64.lt_iff_toNat_lt]
        omega
      obtain ⟨launched, launches, leads⟩ := exists_launch confirmations plan point
      unfold burst
      rw [Station.runAmid_bind launches]
      cases fate : point.station.link point.station.attempts (point.message plan).bytes with
      | none =>
          rw [fate] at leads
          let next : Point :=
            { point with
              station := launched
              trace := point.trace ++ point.launching plan none
              progress := point.launched plan }
          have step : Step confirmations plan start point next :=
            .launch looked missing fate leads
          have counted : next.progress.sent.toNat = point.progress.sent.toNat + 1 :=
            Word.toNat_succ_of_lt missing
          -- A burst reads the clock for stamps only, so what is due stays the same.
          have sameDue : next.due plan start = point.due plan start := rfl
          have owesNext : remaining =
              (next.due plan start).toNat - next.progress.sent.toNat := by
            rw [sameDue, counted]
            omega
          obtain ⟨last, outcome, after, runs, passes, same, ends⟩ :=
            hypothesis next looked owesNext
          exact ⟨last, outcome, after, runs, passes.head step, same, ends⟩
      | some fault =>
          rw [fate] at leads
          obtain ⟨after, reports, reported⟩ :=
            Station.runAmid_refused confirmations launched linkName .pacedLoop
              point.progress.sent point.progress.largest fault
          have refusal : Refusal confirmations plan start point fault after :=
            { looked := looked
              missing := missing
              refuses := fate
              leads := by simpa using leads.trans reported }
          refine ⟨point, point.failure plan fault, after, ?_, .refl, rfl, .refused refusal⟩
          exact Station.runAmid_bind reports _

/-- Run the loop on from a point. -/
def Point.goOn
    (confirmations : Confirmations)
    (linkName : String)
    (plan : Plan)
    (start : UInt64)
    (steps : Nat)
    (point : Point) :
    Option (Option Failure × Progress) × Station :=
  point.station.runAmid confirmations
    (catchUpFrom linkName plan start steps point.now point.progress)

/-- Once all messages are sent, the loop has ended, whatever its bound. -/
theorem catchUpFrom_of_complete
    {linkName : String}
    {steps : Nat}
    {now : UInt64}
    {progress : Progress}
    (complete : ¬ progress.sent < plan.count) :
    catchUpFrom linkName plan start steps now progress = pure (none, progress) := by
  cases steps with
  | zero => exact if_neg complete
  | succ steps => exact if_neg complete

theorem goOn_of_complete
    (linkName : String)
    (steps : Nat)
    {point : Point}
    (complete : ¬ point.progress.sent < plan.count) :
    point.goOn confirmations linkName plan start steps =
      (some (none, point.progress), point.station) := by
  rw [Point.goOn, catchUpFrom_of_complete complete, Station.runAmid_pure]

theorem goOn_zero_of_left
    (linkName : String)
    {point : Point}
    (left : point.progress.sent < plan.count) :
    point.goOn confirmations linkName plan start 0 = (none, point.station) := by
  have cut : catchUpFrom linkName plan start 0 point.now point.progress = .unfinished :=
    if_pos left
  rw [Point.goOn, cut, Station.runAmid_unfinished]

/-- While messages are left, an iteration passes to another idle point, or its burst ends
the run. -/
theorem goOn_succ_of_left
    (confirmations : Confirmations)
    (start : UInt64)
    (linkName : String)
    {point : Point}
    (idle : point.looked = false)
    (left : point.progress.sent < plan.count) :
    exists next,
      ReflTransGen (Step confirmations plan start) point next ∧
        next.iterations = point.iterations + 1 ∧
        (next.looked = false ∧
            (forall steps,
              point.goOn confirmations linkName plan start (steps + 1) =
                next.goOn confirmations linkName plan start steps) ∨
          exists fault after,
            Refusal confirmations plan start next fault after ∧
              forall steps,
                point.goOn confirmations linkName plan start (steps + 1) =
                  (some (next.failure plan fault), after)) := by
  let looking : Point :=
    { point with
      iterations := point.iterations + 1
      looked := true
      progress := point.looking plan start }
  have looks : Step confirmations plan start point looking := .look idle left
  obtain ⟨launched, outcome, between, bursts, launches, same, ends⟩ :=
    burst_passes confirmations plan start linkName _ looking rfl (Word.toNat_minus _ _)
  cases ends with
  | caughtUp looked caughtUp =>
      obtain ⟨polled, reads, leads⟩ :=
        Station.runAmid_readClock confirmations launched.station .schedule
      have passes := (launches.head looks).tail (.poll looked caughtUp leads)
      refine ⟨_, passes, same, .inl ⟨rfl, ?_⟩⟩
      intro steps
      rw [Point.goOn, catchUpFrom, if_pos left]
      refine (Station.runAmid_bind bursts _).trans ?_
      exact Station.runAmid_bind reads _
  | @refused fault _ refusal =>
      refine ⟨launched, launches.head looks, same, .inr ⟨fault, between, refusal, ?_⟩⟩
      intro steps
      rw [Point.goOn, catchUpFrom, if_pos left]
      exact Station.runAmid_bind bursts _

/-- Looking at the schedule is the only step that counts an iteration. -/
theorem iterations_le
    {point last : Point}
    (passes : ReflTransGen (Step confirmations plan start) point last) :
    point.iterations ≤ last.iterations := by
  induction passes with
  | refl => exact Nat.le_refl _
  | tail _ step hypothesis =>
      cases step with
      | look _ _ => exact Nat.le_succ_of_le hypothesis
      | launch _ _ _ _ => exact hypothesis
      | poll _ _ _ => exact hypothesis

/-- How the loop, with a bound on its iterations, goes from a point to a last one, where it
ends with an outcome. A loop that its bound does not cut off ends just as well with any
bound that allows as many iterations. -/
structure Course
    (confirmations : Confirmations)
    (linkName : String)
    (plan : Plan)
    (start : UInt64)
    (steps : Nat)
    (point last : Point)
    (outcome : Option (Option Failure × Progress))
    (after : Station) : Prop where
  goesOn : point.goOn confirmations linkName plan start steps = (outcome, after)
  passes : ReflTransGen (Step confirmations plan start) point last
  ends : Ending confirmations plan start last outcome after
  exhausted : outcome = none -> last.iterations = point.iterations + steps
  suffices_iff : outcome.isSome -> forall bound,
    (point.goOn confirmations linkName plan start bound).1.isSome ↔
      last.iterations ≤ point.iterations + bound

namespace Course

variable {linkName : String} {steps : Nat} {point next : Point}

theorem of_complete
    (linkName : String)
    (steps : Nat)
    (idle : point.looked = false)
    (complete : ¬ point.progress.sent < plan.count) :
    Course confirmations linkName plan start steps point point
      (some (none, point.progress)) point.station where
  goesOn := goOn_of_complete linkName steps complete
  passes := .refl
  ends := .finished idle complete
  exhausted := by simp
  suffices_iff := by
    intro _ bound
    simp [goOn_of_complete linkName bound complete]

theorem of_left
    (linkName : String)
    (idle : point.looked = false)
    (left : point.progress.sent < plan.count) :
    Course confirmations linkName plan start 0 point point none point.station where
  goesOn := goOn_zero_of_left linkName left
  passes := .refl
  ends := .cutOff idle left
  exhausted := fun _ => rfl
  suffices_iff := by simp

/-- A burst ends the run. -/
theorem of_refusal
    {fault : TransportFault}
    {after : Station}
    (left : point.progress.sent < plan.count)
    (passes : ReflTransGen (Step confirmations plan start) point next)
    (counted : next.iterations = point.iterations + 1)
    (refusal : Refusal confirmations plan start next fault after)
    (unrolls : forall steps,
      point.goOn confirmations linkName plan start (steps + 1) =
        (some (next.failure plan fault), after)) :
    Course confirmations linkName plan start (steps + 1) point next
      (some (next.failure plan fault)) after where
  goesOn := unrolls steps
  passes := passes
  ends := .refused refusal
  exhausted := by simp
  suffices_iff := by
    intro _ bound
    rw [counted]
    cases bound with
    | zero => simp [goOn_zero_of_left linkName left]
    | succ bound => simp [unrolls bound]

/-- An iteration comes before the course from the next idle point. -/
theorem head
    {last : Point}
    {outcome : Option (Option Failure × Progress)}
    {after : Station}
    (left : point.progress.sent < plan.count)
    (passes : ReflTransGen (Step confirmations plan start) point next)
    (counted : next.iterations = point.iterations + 1)
    (unrolls : forall steps,
      point.goOn confirmations linkName plan start (steps + 1) =
        next.goOn confirmations linkName plan start steps)
    (course : Course confirmations linkName plan start steps next last outcome after) :
    Course confirmations linkName plan start (steps + 1) point last outcome after where
  goesOn := (unrolls steps).trans course.goesOn
  passes := passes.trans course.passes
  ends := course.ends
  exhausted := by
    intro cutOff
    rw [course.exhausted cutOff, counted]
    omega
  suffices_iff := by
    intro ended bound
    cases bound with
    | zero =>
        -- Without an iteration the loop is cut off, and this course has made one.
        have entered : point.iterations < last.iterations := by
          have counts := iterations_le course.passes
          omega
        simpa [goOn_zero_of_left linkName left] using entered
    | succ bound =>
        rw [unrolls bound, course.suffices_iff ended bound, counted]
        omega

end Course

/-- From every idle point the loop takes some course. -/
theorem exists_course
    (confirmations : Confirmations)
    (plan : Plan)
    (start : UInt64)
    (linkName : String)
    (steps : Nat)
    (point : Point)
    (idle : point.looked = false) :
    exists last outcome after,
      Course confirmations linkName plan start steps point last outcome after := by
  induction steps generalizing point with
  | zero =>
      by_cases left : point.progress.sent < plan.count
      · exact ⟨_, _, _, .of_left linkName idle left⟩
      · exact ⟨_, _, _, .of_complete linkName 0 idle left⟩
  | succ steps hypothesis =>
      by_cases left : point.progress.sent < plan.count
      · obtain ⟨next, passes, counted, ends⟩ :=
          goOn_succ_of_left confirmations start linkName idle left
        rcases ends with ⟨idleAgain, unrolls⟩ | ⟨fault, after, refusal, unrolls⟩
        · obtain ⟨last, outcome, after, course⟩ := hypothesis next idleAgain
          exact ⟨last, outcome, after, .head left passes counted unrolls course⟩
        · exact ⟨next, _, after, .of_refusal left passes counted refusal unrolls⟩
      · exact ⟨_, _, _, .of_complete linkName (steps + 1) idle left⟩

end Loops

/-! ## What a run does -/

/-- Where the loop of a run begins: the clock has been read once. -/
def outset (origin : Station) (start : UInt64) (buffer : Buffer) : Point where
  station := origin
  trace := [.read .schedule start]
  iterations := 0
  now := start
  looked := false
  progress := ⟨0, 0, buffer⟩

/-- A run that begins at a station can pass through a point. -/
def Reached
    (confirmations : Confirmations)
    (plan : Plan)
    (station : Station)
    (buffer : Buffer)
    (point : Point) : Prop :=
  let start := station.clock station.reads
  exists origin,
    Station.Leads confirmations station [.read .schedule start] 0 origin ∧
      ReflTransGen (Step confirmations plan start) (outset origin start buffer) point

/-- The result of a run whose loop has ended. -/
def conclude (pacer : Pacer) : Option Failure × Progress -> Except Failure UInt64 × Pacer
  | (some failure, progress) => (.error failure, { pacer with buffer := progress.buffer })
  | (none, progress) =>
      (.ok progress.sent,
        { pacer with buffer := progress.buffer, largestBurst := progress.largest })

/-- How a run, with a bound on its iterations, goes to a last point, where its loop ends. -/
structure Run
    (confirmations : Confirmations)
    (linkName : String)
    (steps : Nat)
    (plan : Plan)
    (pacer : Pacer)
    (station : Station)
    (last : Point)
    (outcome : Option (Option Failure × Progress))
    (ended after : Station) : Prop where
  runs : station.runAmid confirmations (pacer.run linkName steps plan) =
    (outcome.map (conclude pacer), after)
  reached : Reached confirmations plan station pacer.buffer last
  ends : Ending confirmations plan (station.clock station.reads) last outcome ended
  concludes : Station.Leads confirmations ended [] 0 after
  exhausted : outcome = none -> last.iterations = steps
  suffices_iff : outcome.isSome -> forall bound,
    (station.runAmid confirmations (pacer.run linkName bound plan)).1.isSome ↔
      last.iterations ≤ bound

section Runs

variable {confirmations : Confirmations} {plan : Plan} {pacer : Pacer} {station : Station}

/-- Once its loop has ended, a run ends with the result of the loop. -/
theorem run_of_loop
    {linkName : String}
    {steps : Nat}
    {result : Option Failure × Progress}
    {ended : Station}
    (loops : station.runAmid confirmations (pacer.loop linkName steps plan) =
      (some result, ended)) :
    exists after,
      station.runAmid confirmations (pacer.run linkName steps plan) =
          (some (conclude pacer result), after) ∧
        Station.Leads confirmations ended [] 0 after := by
  obtain ⟨failure, progress⟩ := result
  unfold run
  rw [Station.runAmid_bind loops]
  cases failure with
  | some failure => exact ⟨ended, rfl, .refl ended⟩
  | none =>
      obtain ⟨after, notes, leads⟩ :=
        Station.runAmid_note confirmations ended (completed pacer.pacing plan progress)
      exact ⟨after, Station.runAmid_bind notes _, leads⟩

theorem isSome_run_iff (linkName : String) (steps : Nat) :
    (station.runAmid confirmations (pacer.run linkName steps plan)).1.isSome ↔
      (station.runAmid confirmations (pacer.loop linkName steps plan)).1.isSome := by
  cases loops : station.runAmid confirmations (pacer.loop linkName steps plan) with
  | mk outcome ended =>
      cases outcome with
      | none => simp [run, Station.runAmid_bind_of_none loops]
      | some result =>
          obtain ⟨after, runs, _⟩ := run_of_loop loops
          simp [runs]

/-- Every run of a catch-up pacer takes some course through its points. -/
theorem exists_run
    (confirmations : Confirmations)
    (linkName : String)
    (steps : Nat)
    (plan : Plan)
    (paced : pacer.pacing = .catchUp)
    (station : Station) :
    exists last outcome ended after,
      Run confirmations linkName steps plan pacer station last outcome ended after := by
  obtain ⟨origin, reads, leads⟩ := station.runAmid_readClock confirmations .schedule
  have loops (bound : Nat) :
      station.runAmid confirmations (pacer.loop linkName bound plan) =
        (outset origin (station.clock station.reads) pacer.buffer).goOn confirmations
          linkName plan (station.clock station.reads) bound := by
    rw [loop, paced]
    exact Station.runAmid_bind reads _
  obtain ⟨last, outcome, ended, course⟩ :=
    exists_course confirmations plan (station.clock station.reads) linkName steps
      (outset origin (station.clock station.reads) pacer.buffer) rfl
  have looped := (loops steps).trans course.goesOn
  have reached : Reached confirmations plan station pacer.buffer last :=
    ⟨origin, leads, course.passes⟩
  have suffices_iff (finishes : outcome.isSome) (bound : Nat) :
      (station.runAmid confirmations (pacer.run linkName bound plan)).1.isSome ↔
        last.iterations ≤ bound := by
    rw [isSome_run_iff, loops bound, course.suffices_iff finishes bound]
    change last.iterations ≤ 0 + bound ↔ _
    rw [Nat.zero_add]
  have exhausted (cutOff : outcome = none) : last.iterations = steps := by
    rw [course.exhausted cutOff]
    exact Nat.zero_add steps
  cases outcome with
  | none =>
      exact ⟨last, none, ended, ended,
        { runs := Station.runAmid_bind_of_none looped _
          reached := reached
          ends := course.ends
          concludes := .refl ended
          exhausted := exhausted
          suffices_iff := suffices_iff }⟩
  | some result =>
      obtain ⟨after, runs, concludes⟩ := run_of_loop looped
      exact ⟨last, some result, ended, after,
        { runs := runs
          reached := reached
          ends := course.ends
          concludes := concludes
          exhausted := exhausted
          suffices_iff := suffices_iff }⟩

end Runs
end CatchUp
end Pacer
end LatencyMeter
