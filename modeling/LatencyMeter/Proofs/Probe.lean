import LatencyMeter.Probe
import LatencyMeter.Proofs.Sending.Alone
import Mathlib.Algebra.Ring.Nat
import Mathlib.Data.Nat.Find
import Mathlib.Logic.Function.Iterate
import Mathlib.Order.Bounds.Basic

/-!
# What a throughput probe counts

A probe looks at the time after each pair of messages and ends with the first pair after which
its duration has passed, or with the first message that is refused. Up to there it repeats one
step: two messages are accepted and the clock is read once. So the count that it yields is the
count of accepted messages, and a refused message ends it wherever in a pair it stands. Nothing
is asked of the clock, which may stall or step back.
-/

namespace LatencyMeter
namespace Probe

/-- A probe with some clock readings sends a number of pairs for a duration: none if the
duration is empty, and otherwise the least number from one on after which the reading is as far
from the first one as the duration asks. -/
def EndsAfter (reading : Nat -> UInt64) (duration : Duration) (count : Nat) : Prop :=
  if duration.toNanos = 0 then
    count = 0
  else
    IsLeast
      {pairs | 1 ≤ pairs ∧ duration.toNanos ≤ (reading pairs).toNat - (reading 0).toNat}
      count

/-- What a run at a station has come to: its result, how many messages were accepted, how many
were handed over, and how often the clock was read. -/
structure Ended
    (station : Station)
    (payload : Payload)
    (run : Option (Except Failure UInt64) × Station)
    (result : Except Failure UInt64)
    (accepted attempts readings : Nat) : Prop where
  result : run.1 = some result
  accepted : run.2.accepted = station.accepted ++ List.replicate accepted payload
  attempts : run.2.attempts = station.attempts + attempts
  reads : run.2.reads = station.reads + readings

/-! ## The elapsed time -/

/-- The elapsed time by which a probe decides whether to go on after a number of pairs. -/
def elapsedAfter (reading : Nat -> UInt64) : Nat -> UInt64
  | 0 => 0
  | count + 1 => Word.minus (reading (count + 1)) (reading 0)

/-- For a duration that the clock can count, a probe ends at the first look at the time that
finds the duration passed. -/
theorem endsAfter_iff
    {duration : Duration}
    (short : duration.toNanos < 2 ^ 64)
    (reading : Nat -> UInt64)
    (count : Nat) :
    EndsAfter reading duration count ↔
      IsLeast {pairs | duration.clockNanos ≤ elapsedAfter reading pairs} count := by
  have nanos : duration.clockNanos.toNat = duration.toNanos := by
    rw [Duration.toNat_clockNanos]
    exact Nat.mod_eq_of_lt short
  unfold EndsAfter
  split
  · next empty =>
    have always (pairs : Nat) : duration.clockNanos ≤ elapsedAfter reading pairs := by
      rw [UInt64.le_iff_toNat_le, nanos, empty]
      exact Nat.zero_le _
    constructor
    · rintro rfl
      exact ⟨always 0, fun _ _ => Nat.zero_le _⟩
    · rintro ⟨_, least⟩
      exact Nat.le_zero.mp (least (always 0))
  · next lasting =>
    have same (pairs : Nat) :
        (1 ≤ pairs ∧ duration.toNanos ≤ (reading pairs).toNat - (reading 0).toNat) ↔
          duration.clockNanos ≤ elapsedAfter reading pairs := by
      rw [UInt64.le_iff_toNat_le, nanos]
      cases pairs with
      | zero => simpa [elapsedAfter] using lasting
      | succ pairs => simp [elapsedAfter]
    simp only [same]

/-- If the clock ever lets the duration pass, there is a first pair after which it has. -/
theorem exists_endsAfter_le
    {duration : Duration}
    (short : duration.toNanos < 2 ^ 64)
    {reading : Nat -> UInt64}
    {pairs : Nat}
    (passed : duration.clockNanos ≤ elapsedAfter reading pairs) :
    exists count, count ≤ pairs ∧ EndsAfter reading duration count := by
  have ever : exists count, duration.clockNanos ≤ elapsedAfter reading count := ⟨pairs, passed⟩
  refine ⟨Nat.find ever, Nat.find_min' ever passed, (endsAfter_iff short reading _).mpr ?_⟩
  exact ⟨Nat.find_spec ever, fun _ also => Nat.find_min' ever also⟩

/-! ## Pairs of messages -/

/-- The station after a pair of messages and a look at the time. -/
def afterPair (payload : Payload) (station : Station) : Station :=
  ((station.afterAttempt payload).afterAttempt payload).afterReading .schedule

/-- The failure of a probe with a refused message. -/
def refusal (fault : TransportFault) : Failure :=
  (Failure.ofCause (.transport fault)).within .probeSend

section Steps

variable {payload : Payload} {duration start elapsed sends : UInt64} {station : Station}

/-- When the duration has passed, the count is the result. -/
theorem run_pairsFrom_of_passed
    (passed : duration ≤ elapsed)
    (steps : Nat) :
    station.run (pairsFrom payload duration start steps elapsed sends) =
      (some (.ok sends), station) := by
  have notLeft : ¬ elapsed < duration := UInt64.not_lt.mpr passed
  cases steps <;> rw [pairsFrom, if_neg notLeft] <;> rfl

/-- While time is left and both messages are accepted, the loop goes on. -/
theorem run_pairsFrom_of_accepted
    (left : elapsed < duration)
    (first : station.link station.attempts payload = none)
    (second : station.link (station.attempts + 1) payload = none)
    (steps : Nat) :
    station.run (pairsFrom payload duration start (steps + 1) elapsed sends) =
      (afterPair payload station).run
        (pairsFrom payload duration start steps
          (Word.minus (station.clock station.reads) start) (sends + 2)) := by
  rw [pairsFrom, if_pos left, Station.run_transmit_bind, first]
  dsimp only
  rw [Station.run_transmit_bind, Station.link_afterAttempt, Station.attempts_afterAttempt, second]
  rfl

/-- A refused message ends the loop, be it the first or the second one of its pair. -/
theorem ended_pairsFrom_of_refused
    (left : elapsed < duration)
    {place : Nat}
    (within : place < 2)
    {fault : TransportFault}
    (refused : station.link (station.attempts + place) payload = some fault)
    (accepts : forall earlier, earlier < place ->
      station.link (station.attempts + earlier) payload = none)
    (steps : Nat) :
    Ended station payload
      (station.run (pairsFrom payload duration start (steps + 1) elapsed sends))
      (.error (refusal fault)) place (place + 1) 0 := by
  rw [pairsFrom, if_pos left, Station.run_transmit_bind]
  obtain rfl | rfl : place = 0 ∨ place = 1 := by omega
  · have first : station.link station.attempts payload = some fault := refused
    rw [first]
    refine ⟨rfl, ?_, rfl, rfl⟩
    exact (station.accepted_afterAttempt payload).trans (by rw [first]; rfl)
  · have first : station.link station.attempts payload = none := accepts 0 Nat.one_pos
    have second : (station.afterAttempt payload).link (station.afterAttempt payload).attempts
        payload = some fault := refused
    rw [first]
    dsimp only
    rw [Station.run_transmit_bind, second]
    refine ⟨rfl, ?_, rfl, rfl⟩
    refine (Station.accepted_afterAttempt _ payload).trans ?_
    rw [Station.accepted_afterAttempt, first, second]
    exact List.append_nil _

/-- With its bound used up and time left, the loop is cut off. -/
theorem run_pairsFrom_zero_of_left (left : elapsed < duration) :
    station.run (pairsFrom payload duration start 0 elapsed sends) = (none, station) := by
  rw [pairsFrom, if_pos left]
  rfl

end Steps

/-! ## Runs -/

/-- The station of a probe after a number of pairs. -/
def afterPairs (payload : Payload) (station : Station) (count : Nat) : Station :=
  (afterPair payload)^[count] (station.afterReading .schedule)

theorem afterPairs_succ (payload : Payload) (station : Station) (count : Nat) :
    afterPairs payload station (count + 1) = afterPair payload (afterPairs payload station count) :=
  Function.iterate_succ_apply' _ _ _

section Runs

variable (payload : Payload) (station : Station) (count : Nat)

@[simp] theorem clock_afterPairs : (afterPairs payload station count).clock = station.clock := by
  induction count with
  | zero => rfl
  | succ count hypothesis => rw [afterPairs_succ]; exact hypothesis

@[simp] theorem link_afterPairs : (afterPairs payload station count).link = station.link := by
  induction count with
  | zero => rfl
  | succ count hypothesis => rw [afterPairs_succ]; exact hypothesis

@[simp] theorem reads_afterPairs :
    (afterPairs payload station count).reads = station.reads + (count + 1) := by
  induction count with
  | zero => rfl
  | succ count hypothesis => rw [afterPairs_succ]; exact congrArg (· + 1) hypothesis

@[simp] theorem attempts_afterPairs :
    (afterPairs payload station count).attempts = station.attempts + 2 * count := by
  induction count with
  | zero => rfl
  | succ count hypothesis => rw [afterPairs_succ]; exact congrArg (· + 2) hypothesis

variable {payload station count}

/-- Pairs of accepted messages are accepted one after the other. -/
theorem accepted_afterPairs
    (accepts : forall attempt, attempt < 2 * count ->
      station.link (station.attempts + attempt) payload = none) :
    (afterPairs payload station count).accepted =
      station.accepted ++ List.replicate (2 * count) payload := by
  induction count with
  | zero => simp [afterPairs]
  | succ count hypothesis =>
      have first := accepts (2 * count) (by omega)
      have second := accepts (2 * count + 1) (by omega)
      rw [afterPairs_succ, afterPair, Station.accepted_afterReading, Station.accepted_afterAttempt,
        Station.accepted_afterAttempt, hypothesis fun attempt below => accepts attempt (by omega),
        Station.link_afterAttempt, Station.attempts_afterAttempt, link_afterPairs,
        attempts_afterPairs, first, Nat.add_assoc, second, Nat.mul_succ,
        ← List.replicate_append_replicate, List.append_assoc, List.append_assoc]
      rfl

/-- A probe has sent pairs as long as time was left and its messages were accepted. -/
theorem run_eq_afterPairs
    {duration : Duration}
    {steps : Nat}
    (enough : count ≤ steps)
    (left : forall pairs, pairs < count ->
      elapsedAfter (fun index => station.clock (station.reads + index)) pairs <
        duration.clockNanos)
    (accepts : forall attempt, attempt < 2 * count ->
      station.link (station.attempts + attempt) payload = none) :
    station.run (run steps payload duration) =
      (afterPairs payload station count).run
        (pairsFrom payload duration.clockNanos (station.clock station.reads) (steps - count)
          (elapsedAfter (fun index => station.clock (station.reads + index)) count)
          (UInt64.ofNat (2 * count))) := by
  induction count with
  | zero => rfl
  | succ count hypothesis =>
      have onward := hypothesis (Nat.le_of_succ_le enough)
        (fun pairs below => left pairs (by omega)) (fun attempt below => accepts attempt (by omega))
      have remaining : steps - count = steps - (count + 1) + 1 := by omega
      have first : (afterPairs payload station count).link
          (afterPairs payload station count).attempts payload = none := by
        rw [link_afterPairs, attempts_afterPairs]
        exact accepts (2 * count) (by omega)
      have second : (afterPairs payload station count).link
          ((afterPairs payload station count).attempts + 1) payload = none := by
        rw [link_afterPairs, attempts_afterPairs]
        exact accepts (2 * count + 1) (by omega)
      have counted : UInt64.ofNat (2 * count) + 2 = UInt64.ofNat (2 * (count + 1)) :=
        (UInt64.ofNat_add (2 * count) 2).symm
      rw [onward, remaining, run_pairsFrom_of_accepted (left count (Nat.lt_succ_self count)) first
        second, clock_afterPairs, reads_afterPairs, counted, afterPairs_succ]
      rfl

/-- What a run comes to behind some pairs of accepted messages. -/
theorem Ended.behindPairs
    {run : Option (Except Failure UInt64) × Station}
    {result : Except Failure UInt64}
    {accepted attempts readings : Nat}
    (ended : Ended (afterPairs payload station count) payload run result accepted attempts
      readings)
    (accepts : forall attempt, attempt < 2 * count ->
      station.link (station.attempts + attempt) payload = none) :
    Ended station payload run result (2 * count + accepted) (2 * count + attempts)
      (count + 1 + readings) where
  result := ended.result
  accepted := by
    rw [ended.accepted, accepted_afterPairs accepts, List.append_assoc,
      List.replicate_append_replicate]
  attempts := by rw [ended.attempts, attempts_afterPairs, Nat.add_assoc]
  reads := by rw [ended.reads, reads_afterPairs, Nat.add_assoc]

/-- A probe whose duration passes before a message is refused yields the count of its
messages. -/
theorem ended_of_passed
    {duration : Duration}
    {steps : Nat}
    (enough : count ≤ steps)
    (least : IsLeast
      {pairs | duration.clockNanos ≤
        elapsedAfter (fun index => station.clock (station.reads + index)) pairs}
      count)
    (accepts : forall attempt, attempt < 2 * count ->
      station.link (station.attempts + attempt) payload = none) :
    Ended station payload (station.run (run steps payload duration))
      (.ok (UInt64.ofNat (2 * count))) (2 * count) (2 * count) (count + 1) := by
  have left (pairs : Nat) (below : pairs < count) :
      elapsedAfter (fun index => station.clock (station.reads + index)) pairs <
        duration.clockNanos :=
    UInt64.not_le.mp fun also => Nat.not_le.mpr below (least.2 also)
  rw [run_eq_afterPairs enough left accepts, run_pairsFrom_of_passed least.1]
  have stands : Ended (afterPairs payload station count) payload
      (some (.ok (UInt64.ofNat (2 * count))), afterPairs payload station count)
      (.ok (UInt64.ofNat (2 * count))) 0 0 0 :=
    ⟨rfl, (List.append_nil _).symm, rfl, rfl⟩
  exact stands.behindPairs accepts

/-- A probe with a refused message before its duration passes ends with that message. -/
theorem ended_of_refused
    {duration : Duration}
    {attempt steps : Nat}
    (enough : attempt / 2 < steps)
    (left : forall pairs, pairs ≤ attempt / 2 ->
      elapsedAfter (fun index => station.clock (station.reads + index)) pairs <
        duration.clockNanos)
    {fault : TransportFault}
    (refused : station.link (station.attempts + attempt) payload = some fault)
    (accepts : forall earlier, earlier < attempt ->
      station.link (station.attempts + earlier) payload = none) :
    Ended station payload (station.run (run steps payload duration)) (.error (refusal fault))
      attempt (attempt + 1) (attempt / 2 + 1) := by
  obtain ⟨count, place, within, rfl⟩ :
      exists count place, place < 2 ∧ attempt = 2 * count + place :=
    ⟨attempt / 2, attempt % 2, Nat.mod_lt _ Nat.two_pos, (Nat.div_add_mod attempt 2).symm⟩
  have half : (2 * count + place) / 2 = count := by omega
  rw [half] at enough left ⊢
  obtain ⟨remaining, rfl⟩ := Nat.exists_eq_add_of_lt enough
  have bound : count + remaining + 1 - count = remaining + 1 := by omega
  have pairs (earlier : Nat) (below : earlier < 2 * count) :
      station.link (station.attempts + earlier) payload = none := accepts earlier (by omega)
  rw [run_eq_afterPairs (Nat.le_of_lt enough) (fun pairs below => left pairs (Nat.le_of_lt below))
    pairs, bound]
  refine (ended_pairsFrom_of_refused (left count (Nat.le_refl count)) within ?_ ?_
    remaining).behindPairs pairs
  · rw [link_afterPairs, attempts_afterPairs, Nat.add_assoc, refused]
  · intro earlier below
    rw [link_afterPairs, attempts_afterPairs, Nat.add_assoc]
    exact accepts (2 * count + earlier) (by omega)

/-- A probe with time left and accepted messages is cut off by its bound. -/
theorem run_of_left
    {duration : Duration}
    {steps : Nat}
    (left : forall pairs, pairs ≤ steps ->
      elapsedAfter (fun index => station.clock (station.reads + index)) pairs <
        duration.clockNanos)
    (accepts : forall attempt, attempt < 2 * steps ->
      station.link (station.attempts + attempt) payload = none) :
    (station.run (run steps payload duration)).1 = none := by
  rw [run_eq_afterPairs (Nat.le_refl steps) (fun pairs below => left pairs (Nat.le_of_lt below))
    accepts, Nat.sub_self, run_pairsFrom_zero_of_left (left steps (Nat.le_refl steps))]

end Runs

/-- Probes whose duration the clock can count. If the clock lets the duration pass after a number
of pairs and none of their messages is refused, the probe yields the count of these messages,
which is how many were accepted, and has read the clock once more than there are pairs. If a
message is refused before, the probe fails with it, has handed over nothing behind it, and has
read the clock once and for each whole pair before it. A probe without either never ends. -/
theorem run_counts_accepted_messages
    {duration : Duration}
    (short : duration.toNanos < 2 ^ 64)
    (payload : Payload)
    (station : Station) :
    let reading := fun index => station.clock (station.reads + index)
    let fault := fun attempt => station.link (station.attempts + attempt) payload
    let runs := fun steps => station.run (run steps payload duration)
    (forall count, EndsAfter reading duration count ->
      (forall attempt, attempt < 2 * count -> fault attempt = none) ->
        forall steps,
          (count ≤ steps ->
            Ended station payload (runs steps) (.ok (UInt64.ofNat (2 * count)))
              (2 * count) (2 * count) (count + 1)) ∧
            (steps < count -> (runs steps).1 = none)) ∧
      (forall attempt reason, fault attempt = some reason ->
        (forall earlier, earlier < attempt -> fault earlier = none) ->
          (forall count, EndsAfter reading duration count -> attempt < 2 * count) ->
            forall steps,
              (attempt / 2 < steps ->
                Ended station payload (runs steps)
                  (.error ((Failure.ofCause (.transport reason)).within .probeSend))
                  attempt (attempt + 1) (attempt / 2 + 1)) ∧
                (steps ≤ attempt / 2 -> (runs steps).1 = none)) ∧
      ((forall attempt, fault attempt = none) ->
        (forall count, ¬ EndsAfter reading duration count) ->
          forall steps, (runs steps).1 = none) := by
  intro reading fault runs
  have left (bound : Nat) (later : forall count, EndsAfter reading duration count -> bound < count)
      (pairs : Nat) (within : pairs ≤ bound) :
      elapsedAfter reading pairs < duration.clockNanos := by
    by_contra passed
    obtain ⟨count, sooner, endsAfter⟩ := exists_endsAfter_le short (UInt64.not_lt.mp passed)
    exact absurd (later count endsAfter) (by omega)
  refine ⟨?_, ?_, ?_⟩
  · intro count endsAfter accepts steps
    have least := (endsAfter_iff short reading count).mp endsAfter
    refine ⟨fun enough => ended_of_passed enough least accepts, fun few => run_of_left ?_ ?_⟩
    · exact fun pairs below => UInt64.not_le.mp fun also => absurd (least.2 also) (by omega)
    · exact fun attempt below => accepts attempt (by omega)
  · intro attempt reason refused accepts before steps
    have left := left (attempt / 2) fun count endsAfter => by
      have := before count endsAfter
      omega
    refine ⟨fun enough => ended_of_refused enough left refused accepts, ?_⟩
    intro few
    apply run_of_left
    · exact fun pairs below => left pairs (Nat.le_trans below few)
    · exact fun earlier below => accepts earlier (by omega)
  · intro accepts never steps
    exact run_of_left (left steps fun count endsAfter => absurd endsAfter (never count))
      fun attempt _ => accepts attempt

/-- The clock stalls and steps back before the duration passes after the third pair. A refused
message between the two of the second pair ends the probe. -/
theorem run_counts_six_messages :
    let clock := fun reading => [10, 10, 3, 40].getD reading 0
    let refusing := fun attempt (_ : Payload) =>
      if attempt = 3 then some TransportFault.disconnected else none
    let duration := Duration.ofNanos 25
    let willing := Station.start clock (fun _ _ => none) .empty
    let unwilling := Station.start clock refusing .empty
    duration.toNanos < 2 ^ 64 ∧ EndsAfter clock duration 3 ∧
      Ended willing [1, 2] (willing.run (run 3 [1, 2] duration)) (.ok 6) 6 6 4 ∧
      (willing.run (run 2 [1, 2] duration)).1 = none ∧
      Ended unwilling [1, 2] (unwilling.run (run 3 [1, 2] duration))
        (.error ((Failure.ofCause (.transport .disconnected)).within .probeSend)) 3 4 2 := by
  intro clock refusing duration willing unwilling
  have short : duration.toNanos < 2 ^ 64 := by decide
  have endsAfter : EndsAfter clock duration 3 := by
    unfold EndsAfter
    rw [if_neg (by decide)]
    refine ⟨⟨by decide, by decide⟩, ?_⟩
    rintro pairs ⟨positive, passed⟩
    by_contra fewer
    obtain rfl | rfl : pairs = 1 ∨ pairs = 2 := by omega
    · exact absurd passed (by decide)
    · exact absurd passed (by decide)
  have counted : EndsAfter (fun index => willing.clock (willing.reads + index)) duration 3 := by
    rwa [show (fun index => willing.clock (willing.reads + index)) = clock from
      funext fun index => congrArg clock (Nat.zero_add index)]
  obtain ⟨yields, _, _⟩ := run_counts_accepted_messages short [1, 2] willing
  obtain ⟨_, fails, _⟩ := run_counts_accepted_messages short [1, 2] unwilling
  have willingly := yields 3 counted fun _ _ => rfl
  refine ⟨short, endsAfter, (willingly 3).1 (Nat.le_refl 3), (willingly 2).2 (by decide), ?_⟩
  refine (fails 3 .disconnected rfl (by decide) ?_ 3).1 (by decide)
  intro count also
  obtain rfl : count = 3 :=
    IsLeast.unique ((endsAfter_iff short _ _).mp also) ((endsAfter_iff short _ _).mp counted)
  decide

end Probe
end LatencyMeter
