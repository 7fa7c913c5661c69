import LatencyMeter.Proofs.Flight
import Mathlib.Data.List.Infix
import Mathlib.Order.Bounds.Basic

/-!
# Flight counters under many threads

Any number of threads may share the counters of one session. A thread that counts a
message raises the three counters one after the other; a thread that confirms a message
lowers the count of unconfirmed messages at once, and crashes if that leaves it negative.
This module runs the threads in any order.

The threads keep one rule: at no moment have more confirmations begun than messages have
been counted to the end. The peak is raised two steps after the count of sent messages,
and other threads may change the count of unconfirmed messages in between. No level is
missed for all that, because the thread that reached a level still has it to report.
-/

namespace LatencyMeter
namespace Crowd

/-- What a thread is doing. -/
inductive Activity
  | idle
  /-- It counts a message, and has this left to do before it returns. -/
  | counting (rest : Sending Unit)
  /-- It is about to confirm a message. -/
  | confirming
  /-- Its confirmation was a fault. -/
  | crashed (cause : Cause)

/-- What may happen next. -/
inductive Turn
  /-- A thread begins to count a message, if it is idle. -/
  | count (thread : Nat)
  /-- A thread begins to confirm a message, if it is idle. -/
  | confirm (thread : Nat)
  /-- A thread takes its next step. -/
  | advance (thread : Nat)

end Crowd

/-- Threads that share counters, and an observer of what they have done. -/
structure Crowd where
  flight : Flight
  threads : List Crowd.Activity
  /-- How often the count of unconfirmed messages was raised. -/
  raised : Nat
  /-- How often the count of unconfirmed messages was lowered. -/
  lowered : Nat
  /-- How many messages have been counted to the end. -/
  counted : Nat
  /-- How many confirmations have begun. -/
  begun : Nat
  /-- How many confirmations have returned. -/
  confirmed : Nat

namespace Crowd

/-- Some idle threads that share fresh counters. -/
def start (count : Nat) : Crowd :=
  ⟨.empty, List.replicate count .idle, 0, 0, 0, 0, 0⟩

/-- Let a thread do something else. -/
def put (crowd : Crowd) (thread : Nat) (activity : Activity) : Crowd :=
  { crowd with threads := crowd.threads.set thread activity }

/-- Take the next step of a thread that does something. -/
def advance (crowd : Crowd) (thread : Nat) : Activity -> Crowd
  | .counting (.ask request next) =>
      let (answer, flight) := Flight.answer ⟨0, none⟩ request crowd.flight
      { crowd.put thread (.counting (next answer)) with
        flight := flight
        raised := crowd.raised + request.raises }
  | .counting (.done _) =>
      { crowd.put thread .idle with counted := crowd.counted + 1 }
  | .confirming =>
      match crowd.flight.confirm with
      | (.ok _, flight) =>
          { crowd.put thread .idle with
            flight := flight
            lowered := crowd.lowered + 1
            confirmed := crowd.confirmed + 1 }
      | (.error cause, flight) =>
          { crowd.put thread (.crashed cause) with
            flight := flight
            lowered := crowd.lowered + 1 }
  | _ => crowd

/-- Take a turn. -/
def step (crowd : Crowd) : Turn -> Crowd
  | .count thread =>
      match crowd.threads[thread]? with
      | some .idle => crowd.put thread (.counting Sending.countSent)
      | _ => crowd
  | .confirm thread =>
      match crowd.threads[thread]? with
      | some .idle => { crowd.put thread .confirming with begun := crowd.begun + 1 }
      | _ => crowd
  | .advance thread =>
      match crowd.threads[thread]? with
      | some activity => crowd.advance thread activity
      | none => crowd

/-- Some threads after some turns. -/
def ofTurns (count : Nat) (turns : List Turn) : Crowd :=
  turns.foldl step (start count)

/-- How many messages were counted as unconfirmed and not confirmed since. -/
def unconfirmed (crowd : Crowd) : Int := crowd.raised - crowd.lowered

/-- The values that the count of unconfirmed messages has had. -/
def levels (count : Nat) (turns : List Turn) : Set Int64 :=
  { level | exists earlier, earlier <+: turns ∧ (ofTurns count earlier).flight.outstanding = level }

/-- No thread is in the middle of counting a message. -/
def NoneCounting (crowd : Crowd) : Prop :=
  forall rest, .counting rest ∉ crowd.threads

/-- So many messages have been counted and confirmed, and all threads have returned. -/
def Finished (crowd : Crowd) (calls : Nat) : Prop :=
  (forall activity, activity ∈ crowd.threads -> activity = .idle) ∧
    crowd.counted = calls ∧ crowd.confirmed = calls

/-! ## Moves -/

/-- The last request that counting a message makes, with the level that it reports. -/
def report (level : Int64) : Sending Unit := .ask (.raisePeak level) .done

/-- What is left of counting a message that is counted as sent only. -/
def midway : Sending Unit := .ask .raiseOutstanding report

namespace Activity

/-- A thread that counts a message is at one of the four points of doing so. -/
inductive Regular : Activity -> Prop
  | idle : Regular .idle
  | everything : Regular (.counting Sending.countSent)
  | midway : Regular (.counting midway)
  | report (level : Int64) : Regular (.counting (report level))
  | nothing : Regular (.counting (.done ()))
  | confirming : Regular .confirming
  | crashed (cause : Cause) : Regular (.crashed cause)

/-- How many messages a thread has counted as sent but not as unconfirmed. -/
def ahead : Activity -> Nat
  | .counting (.ask .raiseOutstanding _) => 1
  | _ => 0

/-- How many messages a thread has counted as unconfirmed without having returned. -/
def late : Activity -> Nat
  | .counting (.ask (.raisePeak _) _) => 1
  | .counting (.done _) => 1
  | _ => 0

/-- How many confirmations a thread has begun but not carried out. -/
def owing : Activity -> Nat
  | .confirming => 1
  | _ => 0

/-- How many confirmations of a thread were faults. -/
def failed : Activity -> Nat
  | .crashed _ => 1
  | _ => 0

/-- The level that a thread still has to report. -/
def pending? : Activity -> Option Int64
  | .counting (.ask (.raisePeak level) _) => some level
  | _ => none

end Activity

/-- What a turn can do to threads that are regular. -/
inductive Move (crowd : Crowd) : Crowd -> Prop
  | stay : Move crowd crowd
  | begin (thread : Nat) (found : crowd.threads[thread]? = some .idle) :
      Move crowd (crowd.put thread (.counting Sending.countSent))
  | raiseTotal (thread : Nat)
      (found : crowd.threads[thread]? = some (.counting Sending.countSent)) :
      Move crowd
        { crowd.put thread (.counting midway) with flight := crowd.flight.raiseTotal }
  | raiseOutstanding (thread : Nat) (found : crowd.threads[thread]? = some (.counting midway)) :
      Move crowd
        { crowd.put thread (.counting (report (crowd.flight.outstanding + 1))) with
          flight := crowd.flight.raiseOutstanding
          raised := crowd.raised + 1 }
  | raisePeak (thread : Nat) (level : Int64)
      (found : crowd.threads[thread]? = some (.counting (report level))) :
      Move crowd
        { crowd.put thread (.counting (.done ())) with flight := crowd.flight.raisePeak level }
  | finish (thread : Nat) (found : crowd.threads[thread]? = some (.counting (.done ()))) :
      Move crowd { crowd.put thread .idle with counted := crowd.counted + 1 }
  | claim (thread : Nat) (found : crowd.threads[thread]? = some .idle) :
      Move crowd { crowd.put thread .confirming with begun := crowd.begun + 1 }
  | lower (thread : Nat)
      (found : crowd.threads[thread]? = some .confirming)
      (unconfirmed : ¬ crowd.flight.lower.outstanding < 0) :
      Move crowd
        { crowd.put thread .idle with
          flight := crowd.flight.lower
          lowered := crowd.lowered + 1
          confirmed := crowd.confirmed + 1 }
  | crash (thread : Nat)
      (found : crowd.threads[thread]? = some .confirming)
      (fault : crowd.flight.lower.outstanding < 0) :
      Move crowd
        { crowd.put thread (.crashed (.flight crowd.flight.lower.outstanding)) with
          flight := crowd.flight.lower
          lowered := crowd.lowered + 1 }

variable {crowd later : Crowd}

theorem move_advance
    {thread : Nat}
    {activity : Activity}
    (regular : activity.Regular)
    (found : crowd.threads[thread]? = some activity) :
    Move crowd (crowd.advance thread activity) := by
  cases regular with
  | idle => exact .stay
  | everything => exact .raiseTotal thread found
  | midway => exact .raiseOutstanding thread found
  | report level => exact .raisePeak thread level found
  | nothing => exact .finish thread found
  | crashed cause => exact .stay
  | confirming =>
      by_cases fault : crowd.flight.lower.outstanding < 0
      · have fails : crowd.flight.confirm =
            (.error (.flight crowd.flight.lower.outstanding), crowd.flight.lower) :=
          if_pos fault
        rw [advance, fails]
        exact .crash thread found fault
      · have returns : crowd.flight.confirm =
            (.ok crowd.flight.lower.outstanding, crowd.flight.lower) := if_neg fault
        rw [advance, returns]
        exact .lower thread found fault

theorem move_step
    (regular : forall activity, activity ∈ crowd.threads -> activity.Regular)
    (turn : Turn) :
    Move crowd (crowd.step turn) := by
  unfold step
  cases turn with
  | count thread =>
      dsimp only
      split
      · next found => exact .begin thread found
      · exact .stay
  | confirm thread =>
      dsimp only
      split
      · next found => exact .claim thread found
      · exact .stay
  | advance thread =>
      dsimp only
      split
      · next activity found =>
          exact move_advance (regular activity (List.mem_of_getElem? found)) found
      · exact .stay

/-! ## What the threads owe -/

/-- What the threads come to together. -/
def weigh (crowd : Crowd) (weight : Activity -> Nat) : Nat :=
  (crowd.threads.map weight).sum

theorem weigh_put
    (weight : Activity -> Nat)
    {thread : Nat}
    {before : Activity}
    (found : crowd.threads[thread]? = some before)
    (after : Activity) :
    (crowd.put thread after).weigh weight + weight before =
      crowd.weigh weight + weight after := by
  unfold weigh put
  dsimp only
  generalize crowd.threads = threads at found
  induction threads generalizing thread with
  | nil => cases found
  | cons first rest hypothesis =>
      cases thread with
      | zero =>
          cases found
          simp only [List.set_cons_zero, List.map_cons, List.sum_cons]
          omega
      | succ thread =>
          have inner := hypothesis found
          simp only [List.set_cons_succ, List.map_cons, List.sum_cons]
          omega

theorem weigh_eq_zero
    {weight : Activity -> Nat}
    (none : forall activity, activity ∈ crowd.threads -> weight activity = 0) :
    crowd.weigh weight = 0 := by
  apply List.sum_eq_zero_iff_forall_eq_nat.mpr
  intro share member
  obtain ⟨activity, present, rfl⟩ := List.mem_map.mp member
  exact none activity present

/-- Threads that are idle weigh nothing. -/
theorem weigh_of_idle
    (idle : forall activity, activity ∈ crowd.threads -> activity = .idle)
    {weight : Activity -> Nat}
    (weightless : weight .idle = 0) :
    crowd.weigh weight = 0 := by
  apply weigh_eq_zero
  intro activity member
  rw [idle activity member, weightless]

/-- The counters agree with the observer up to what the threads have still to do. -/
structure Coherent (crowd : Crowd) : Prop where
  regular : forall activity, activity ∈ crowd.threads -> activity.Regular
  total : crowd.flight.total = UInt64.ofNat (crowd.raised + crowd.weigh Activity.ahead)
  outstanding : crowd.flight.outstanding = Int64.ofInt crowd.unconfirmed
  counted : crowd.raised = crowd.counted + crowd.weigh Activity.late
  begun : crowd.begun = crowd.lowered + crowd.weigh Activity.owing
  confirmed : crowd.lowered = crowd.confirmed + crowd.weigh Activity.failed

theorem coherent_start (count : Nat) : (start count).Coherent := by
  have idle (activity : Activity) (member : activity ∈ (start count).threads) :
      activity = .idle := List.eq_of_mem_replicate member
  refine ⟨?_, ?_, rfl, ?_, ?_, ?_⟩
  · intro activity member
    rw [idle activity member]
    exact .idle
  · rw [weigh_of_idle idle rfl]
    rfl
  · rw [weigh_of_idle idle rfl]
    rfl
  · rw [weigh_of_idle idle rfl]
    rfl
  · rw [weigh_of_idle idle rfl]
    rfl

namespace Coherent

/-- A turn of one thread keeps the agreement, if the counters change by what the thread
has done. -/
theorem turn
    (coherent : crowd.Coherent)
    {thread : Nat}
    {before after : Activity}
    (found : crowd.threads[thread]? = some before)
    (threads : later.threads = (crowd.put thread after).threads)
    (regular : after.Regular)
    {sent : Nat}
    (total : later.flight.total = crowd.flight.total + UInt64.ofNat sent)
    (sends : later.raised + after.ahead = crowd.raised + before.ahead + sent)
    {change : Int}
    (changes : later.unconfirmed = crowd.unconfirmed + change)
    (outstanding : later.flight.outstanding = crowd.flight.outstanding + Int64.ofInt change)
    (counted : later.raised + crowd.counted + before.late =
      crowd.raised + later.counted + after.late)
    (begun : later.begun + crowd.lowered + before.owing =
      crowd.begun + later.lowered + after.owing)
    (confirmed : later.lowered + crowd.confirmed + before.failed =
      crowd.lowered + later.confirmed + after.failed) :
    later.Coherent := by
  have share (weight : Activity -> Nat) :
      later.weigh weight + weight before = crowd.weigh weight + weight after := by
    rw [weigh, threads]
    exact weigh_put weight found after
  have ahead := share Activity.ahead
  have late := share Activity.late
  have owing := share Activity.owing
  have failed := share Activity.failed
  have countedBefore := coherent.counted
  have begunBefore := coherent.begun
  have confirmedBefore := coherent.confirmed
  refine ⟨?_, ?_, ?_, ?_, ?_, ?_⟩
  · intro activity member
    rw [threads] at member
    rcases List.mem_or_eq_of_mem_set member with unchanged | replaced
    · exact coherent.regular activity unchanged
    · rwa [replaced]
  · have sum : later.raised + later.weigh Activity.ahead =
        crowd.raised + crowd.weigh Activity.ahead + sent := by omega
    rw [total, coherent.total, sum, UInt64.ofNat_add _ sent]
  · rw [outstanding, coherent.outstanding, changes, Int64.ofInt_add]
  · omega
  · omega
  · omega

theorem move (coherent : crowd.Coherent) (move : crowd.Move later) : later.Coherent := by
  have total : crowd.flight.total = crowd.flight.total + UInt64.ofNat 0 :=
    (UInt64.add_zero _).symm
  have level : crowd.flight.outstanding = crowd.flight.outstanding + Int64.ofInt 0 :=
    (Int64.add_zero _).symm
  have same : crowd.unconfirmed = crowd.unconfirmed + 0 := (Int.add_zero _).symm
  have less : (crowd.raised : Int) - ((crowd.lowered + 1 : Nat) : Int) =
      crowd.unconfirmed + -1 := by
    unfold unconfirmed
    omega
  have lowered : crowd.flight.lower.outstanding = crowd.flight.outstanding + Int64.ofInt (-1) :=
    Int64.sub_eq_add_neg _ 1
  cases move with
  | stay => exact coherent
  | begin thread found =>
      exact coherent.turn found rfl .everything total rfl same level rfl rfl rfl
  | raiseTotal thread found =>
      exact coherent.turn found rfl .midway rfl rfl same level rfl rfl rfl
  | raiseOutstanding thread found =>
      have more : ((crowd.raised + 1 : Nat) : Int) - crowd.lowered = crowd.unconfirmed + 1 := by
        unfold unconfirmed
        omega
      have late : crowd.raised + 1 + crowd.counted + 0 = crowd.raised + crowd.counted + 1 := by
        omega
      exact coherent.turn found rfl (.report _) total rfl more rfl late rfl rfl
  | raisePeak thread noted found =>
      exact coherent.turn found rfl .nothing total rfl same level rfl rfl rfl
  | finish thread found =>
      have returned : crowd.raised + crowd.counted + 1 = crowd.raised + (crowd.counted + 1) + 0 :=
        rfl
      exact coherent.turn found rfl .idle total rfl same level returned rfl rfl
  | claim thread found =>
      have owing : crowd.begun + 1 + crowd.lowered + 0 = crowd.begun + crowd.lowered + 1 := by
        omega
      exact coherent.turn found rfl .confirming total rfl same level rfl owing rfl
  | lower thread found unconfirmed =>
      have owing : crowd.begun + crowd.lowered + 1 = crowd.begun + (crowd.lowered + 1) + 0 := rfl
      have returned : crowd.lowered + 1 + crowd.confirmed + 0 =
          crowd.lowered + (crowd.confirmed + 1) + 0 := by omega
      exact coherent.turn found rfl .idle total rfl less lowered rfl owing returned
  | crash thread found fault =>
      have owing : crowd.begun + crowd.lowered + 1 = crowd.begun + (crowd.lowered + 1) + 0 := rfl
      have failed : crowd.lowered + 1 + crowd.confirmed + 0 =
          crowd.lowered + crowd.confirmed + 1 := by omega
      exact coherent.turn found rfl (.crashed _) total rfl less lowered rfl owing failed

theorem lowered_le_raised
    (coherent : crowd.Coherent)
    (ordered : crowd.begun ≤ crowd.counted) :
    crowd.lowered ≤ crowd.raised := by
  have counted := coherent.counted
  have begun := coherent.begun
  omega

/-- Below the limit of a word the count of unconfirmed messages is exact. -/
theorem toInt_outstanding
    (coherent : crowd.Coherent)
    (ordered : crowd.begun ≤ crowd.counted)
    (fits : crowd.unconfirmed < 2 ^ 63) :
    crowd.flight.outstanding.toInt = crowd.unconfirmed := by
  have fewer := coherent.lowered_le_raised ordered
  rw [coherent.outstanding]
  refine Int64.toInt_ofInt_of_le ?_ fits
  unfold unconfirmed
  omega

theorem outstanding_nonneg
    (coherent : crowd.Coherent)
    (ordered : crowd.begun ≤ crowd.counted)
    (fits : crowd.unconfirmed < 2 ^ 63) :
    0 ≤ crowd.flight.outstanding := by
  have fewer := coherent.lowered_le_raised ordered
  rw [Int64.le_iff_toInt_le, coherent.toInt_outstanding ordered fits]
  change (0 : Int) ≤ crowd.unconfirmed
  unfold unconfirmed
  omega

/-- After as many confirmations as counted messages nothing is unconfirmed. -/
theorem of_finished
    (coherent : crowd.Coherent)
    {calls : Nat}
    (finished : crowd.Finished calls) :
    crowd.flight.outstanding = 0 ∧ crowd.flight.total = UInt64.ofNat calls := by
  obtain ⟨idle, counted, confirmed⟩ := finished
  have raised : crowd.raised = calls := by
    rw [coherent.counted, weigh_of_idle idle rfl, counted, Nat.add_zero]
  have lowered : crowd.lowered = calls := by
    rw [coherent.confirmed, weigh_of_idle idle rfl, confirmed, Nat.add_zero]
  constructor
  · rw [coherent.outstanding, unconfirmed, raised, lowered, Int.sub_self]
    rfl
  · rw [coherent.total, weigh_of_idle idle rfl, raised, Nat.add_zero]

end Coherent

namespace Move

theorem unconfirmed_le (move : crowd.Move later) :
    later.unconfirmed ≤ crowd.unconfirmed + 1 := by
  cases move <;> simp only [unconfirmed, put] <;> omega

/-- A thread crashes only when the count of unconfirmed messages becomes negative. -/
theorem crashed_mem
    (move : crowd.Move later)
    {cause : Cause}
    (crashed : .crashed cause ∈ later.threads) :
    .crashed cause ∈ crowd.threads ∨ later.flight.outstanding < 0 := by
  have earlier {thread : Nat} {activity : Activity}
      (member : .crashed cause ∈ crowd.threads.set thread activity)
      (other : activity ≠ .crashed cause) : .crashed cause ∈ crowd.threads := by
    rcases List.mem_or_eq_of_mem_set member with unchanged | replaced
    · exact unchanged
    · exact absurd replaced.symm other
  cases move with
  | stay => exact .inl crashed
  | crash thread found fault => exact .inr fault
  | _ => exact .inl (earlier crashed nofun)

end Move

/-! ## Levels reached and levels reported -/

/-- The peak and the levels that threads have still to report. -/
def noted (crowd : Crowd) : Set Int64 :=
  { level | level = crowd.flight.peak ∨
      exists activity, activity ∈ crowd.threads ∧ activity.pending? = some level }

/-- Some levels, among them the present one, are the ones that the threads have reached:
each of them is at most a noted level, and the noted levels are among them. -/
structure Tracked (crowd : Crowd) (taken : Set Int64) : Prop where
  current : crowd.flight.outstanding ∈ taken
  noted : forall level, level ∈ crowd.noted -> level ∈ taken
  covered : forall level, level ∈ taken -> exists top, top ∈ crowd.noted ∧ level ≤ top
  bounded : forall level, level ∈ taken -> level.toInt ≤ crowd.raised
  positive : 0 < crowd.raised -> exists level, level ∈ taken ∧ 0 < level.toInt

namespace Tracked

variable {taken : Set Int64}

/-- A turn of one thread keeps every level covered: the levels that were noted are noted
still, or the new peak has taken their place. -/
theorem turn
    (tracked : crowd.Tracked taken)
    {thread : Nat}
    {before after : Activity}
    (found : crowd.threads[thread]? = some before)
    (threads : later.threads = (crowd.put thread after).threads)
    (peak : later.flight.peak ∈ crowd.noted)
    (rises : crowd.flight.peak ≤ later.flight.peak)
    (reported : forall level, before.pending? = some level -> level ≤ later.flight.peak)
    (pending : forall level, after.pending? = some level -> level = later.flight.outstanding)
    (level : later.flight.outstanding ≤ crowd.flight.outstanding ∨
      after.pending? = some later.flight.outstanding)
    (bounded : later.flight.outstanding.toInt ≤ later.raised)
    (raised : later.raised = crowd.raised ∨
      later.raised = crowd.raised + 1 ∧ 0 < later.flight.outstanding.toInt) :
    later.Tracked (insert later.flight.outstanding taken) := by
  have known : thread < crowd.threads.length := (List.getElem?_eq_some_iff.mp found).1
  have placed : after ∈ later.threads := by
    rw [threads]
    exact List.mem_set known after
  have kept (top : Int64) (member : top ∈ crowd.noted) :
      exists higher, higher ∈ later.noted ∧ top ≤ higher := by
    rcases member with rfl | ⟨activity, present, waiting⟩
    · exact ⟨later.flight.peak, .inl rfl, rises⟩
    · obtain ⟨index, found'⟩ := List.mem_iff_getElem?.mp present
      by_cases same : thread = index
      · rw [← same, found] at found'
        cases found'
        exact ⟨later.flight.peak, .inl rfl, reported top waiting⟩
      · have stays : activity ∈ later.threads := by
          rw [threads]
          apply List.mem_of_getElem?
          exact (List.getElem?_set_ne same).trans found'
        exact ⟨top, .inr ⟨activity, stays, waiting⟩, Int64.le_refl top⟩
  refine ⟨Set.mem_insert _ _, ?_, ?_, ?_, ?_⟩
  · rintro top (rfl | ⟨activity, present, waiting⟩)
    · exact Set.mem_insert_of_mem _ (tracked.noted _ peak)
    · rw [threads] at present
      rcases List.mem_or_eq_of_mem_set present with unchanged | replaced
      · exact Set.mem_insert_of_mem _ (tracked.noted top (.inr ⟨activity, unchanged, waiting⟩))
      · rw [replaced] at waiting
        rw [pending top waiting]
        exact Set.mem_insert _ _
  · have covered (reached : Int64) (member : reached ∈ taken) :
        exists top, top ∈ later.noted ∧ reached ≤ top := by
      obtain ⟨top, noted, below⟩ := tracked.covered reached member
      obtain ⟨higher, noted', above⟩ := kept top noted
      exact ⟨higher, noted', Int64.le_trans below above⟩
    rintro reached (rfl | member)
    · rcases level with lower | waiting
      · obtain ⟨top, noted, below⟩ := covered _ tracked.current
        exact ⟨top, noted, Int64.le_trans lower below⟩
      · exact ⟨_, .inr ⟨after, placed, waiting⟩, Int64.le_refl _⟩
    · exact covered reached member
  · rintro reached (rfl | member)
    · exact bounded
    · have earlier := tracked.bounded reached member
      omega
  · intro some
    rcases raised with same | ⟨_, positive⟩
    · obtain ⟨reached, member, positive⟩ := tracked.positive (by omega)
      exact ⟨reached, Set.mem_insert_of_mem _ member, positive⟩
    · exact ⟨_, Set.mem_insert _ _, positive⟩

theorem move
    (tracked : crowd.Tracked taken)
    (move : crowd.Move later)
    (fewer : crowd.lowered ≤ crowd.raised)
    (before : crowd.flight.outstanding.toInt = crowd.unconfirmed)
    (after : later.flight.outstanding.toInt = later.unconfirmed) :
    later.Tracked (insert later.flight.outstanding taken) := by
  have bounded : later.flight.outstanding.toInt ≤ later.raised := by
    rw [after, unconfirmed]
    omega
  have lowers
      (exact : crowd.flight.lower.outstanding.toInt =
        (crowd.raised : Int) - ((crowd.lowered + 1 : Nat) : Int)) :
      crowd.flight.lower.outstanding ≤ crowd.flight.outstanding := by
    rw [Int64.le_iff_toInt_le, exact, before, unconfirmed]
    omega
  have still : crowd.flight.peak ∈ crowd.noted := .inl rfl
  have same := Int64.le_refl crowd.flight.peak
  have level := Int64.le_refl crowd.flight.outstanding
  cases move with
  | stay =>
      rw [Set.insert_eq_of_mem tracked.current]
      exact tracked
  | begin thread found =>
      exact tracked.turn found rfl still same nofun nofun (.inl level) bounded (.inl rfl)
  | raiseTotal thread found =>
      exact tracked.turn found rfl still same nofun nofun (.inl level) bounded (.inl rfl)
  | raiseOutstanding thread found =>
      refine tracked.turn found rfl still same nofun ?_ (.inr rfl) bounded (.inr ⟨rfl, ?_⟩)
      · intro pending waiting
        exact (Option.some.inj waiting).symm
      · rw [after]
        simp only [unconfirmed, put]
        omega
  | raisePeak thread reached found =>
      have waiting : reached ∈ crowd.noted := .inr ⟨_, List.mem_of_getElem? found, rfl⟩
      have peak : (crowd.flight.raisePeak reached).peak ∈ crowd.noted := by
        rcases crowd.flight.peak_raisePeak_eq_or reached with same | same
        · rwa [same]
        · rwa [same]
      have rises := crowd.flight.peak_le_peak_raisePeak reached
      refine tracked.turn found rfl peak rises ?_ nofun (.inl level) bounded (.inl rfl)
      intro reported waits
      cases waits
      exact crowd.flight.level_le_peak_raisePeak reached
  | finish thread found =>
      exact tracked.turn found rfl still same nofun nofun (.inl level) bounded (.inl rfl)
  | claim thread found =>
      exact tracked.turn found rfl still same nofun nofun (.inl level) bounded (.inl rfl)
  | lower thread found unconfirmed =>
      have lower : crowd.flight.lower.outstanding ≤ crowd.flight.outstanding := lowers after
      exact tracked.turn found rfl still same nofun nofun (.inl lower) bounded (.inl rfl)
  | crash thread found fault =>
      have lower : crowd.flight.lower.outstanding ≤ crowd.flight.outstanding := lowers after
      exact tracked.turn found rfl still same nofun nofun (.inl lower) bounded (.inl rfl)

/-- When no thread is counting, nothing but the peak is noted. -/
theorem isGreatest
    (tracked : crowd.Tracked taken)
    (quiet : crowd.NoneCounting) :
    IsGreatest taken crowd.flight.peak := by
  refine ⟨tracked.noted _ (.inl rfl), ?_⟩
  intro level member
  obtain ⟨top, rfl | ⟨activity, present, waiting⟩, below⟩ := tracked.covered level member
  · exact below
  · cases activity with
    | counting rest => exact absurd present (quiet rest)
    | _ => cases waiting

end Tracked

/-! ## Runs -/

/-- At no moment have more confirmations begun than messages have been counted to the end. -/
def Ordered (count : Nat) (turns : List Turn) : Prop :=
  forall earlier, earlier <+: turns ->
    (ofTurns count earlier).begun ≤ (ofTurns count earlier).counted

/-- At every moment the count of unconfirmed messages is below the limit of a word. -/
def Fits (count : Nat) (turns : List Turn) : Prop :=
  forall earlier, earlier <+: turns -> (ofTurns count earlier).unconfirmed < 2 ^ 63

theorem ofTurns_concat (count : Nat) (earlier : List Turn) (latest : Turn) :
    ofTurns count (earlier ++ [latest]) = (ofTurns count earlier).step latest := by
  unfold ofTurns
  rw [List.foldl_append]
  rfl

theorem levels_concat (count : Nat) (earlier : List Turn) (latest : Turn) :
    levels count (earlier ++ [latest]) =
      insert (ofTurns count (earlier ++ [latest])).flight.outstanding
        (levels count earlier) := by
  ext level
  constructor
  · rintro ⟨some, before, rfl⟩
    rcases List.prefix_concat_iff.mp before with rfl | before
    · exact Set.mem_insert _ _
    · exact Set.mem_insert_of_mem _ ⟨some, before, rfl⟩
  · rintro (rfl | ⟨some, before, rfl⟩)
    · exact ⟨_, List.prefix_refl _, rfl⟩
    · exact ⟨some, before.trans (List.prefix_append _ _), rfl⟩

theorem coherent_ofTurns (count : Nat) (turns : List Turn) :
    (ofTurns count turns).Coherent := by
  induction turns using List.reverseRecOn with
  | nil => exact coherent_start count
  | append_singleton earlier latest hypothesis =>
      rw [ofTurns_concat]
      exact hypothesis.move (move_step hypothesis.regular latest)

theorem move_ofTurns (count : Nat) (earlier : List Turn) (latest : Turn) :
    (ofTurns count earlier).Move (ofTurns count (earlier ++ [latest])) := by
  rw [ofTurns_concat]
  exact move_step (coherent_ofTurns count earlier).regular latest

variable {count : Nat} {turns : List Turn}

/-- A turn makes at most one more message unconfirmed. -/
theorem unconfirmed_le_length (count : Nat) (turns : List Turn) :
    (ofTurns count turns).unconfirmed ≤ turns.length := by
  induction turns using List.reverseRecOn with
  | nil => exact Int.le_refl 0
  | append_singleton earlier latest hypothesis =>
      have near := (move_ofTurns count earlier latest).unconfirmed_le
      rw [List.length_append, List.length_singleton]
      omega

/-- It takes as many turns to reach the limit of a word. -/
theorem fits_of_length_lt (few : turns.length < 2 ^ 63) : Fits count turns := by
  intro earlier before
  have bound := unconfirmed_le_length count earlier
  have shorter := before.length_le
  omega

/-- The count of unconfirmed messages is never negative unless it passes the limit of a
word, which it cannot jump over. -/
theorem nonneg_iff_fits (ordered : Ordered count turns) :
    (forall earlier, earlier <+: turns -> 0 ≤ (ofTurns count earlier).flight.outstanding) ↔
      Fits count turns := by
  constructor
  · intro nonneg earlier
    induction earlier using List.reverseRecOn with
    | nil =>
        intro _
        exact (by decide : (0 : Int) < 2 ^ 63)
    | append_singleton earlier latest hypothesis =>
        intro before
        have below := hypothesis ((List.prefix_append earlier [latest]).trans before)
        have near := (move_ofTurns count earlier latest).unconfirmed_le
        have level := nonneg _ before
        -- One more than the greatest word is the least one, so the limit shows as negative.
        by_contra reaches
        have limit : (ofTurns count (earlier ++ [latest])).unconfirmed = 2 ^ 63 := by omega
        rw [(coherent_ofTurns count _).outstanding, limit] at level
        exact absurd level (by decide)
  · intro fits earlier before
    exact (coherent_ofTurns count earlier).outstanding_nonneg (ordered earlier before)
      (fits earlier before)

theorem not_crashed
    (ordered : Ordered count turns)
    (fits : Fits count turns)
    (cause : Cause) :
    .crashed cause ∉ (ofTurns count turns).threads := by
  have nonneg := (nonneg_iff_fits ordered).mpr fits
  clear ordered fits
  induction turns using List.reverseRecOn with
  | nil =>
      intro member
      exact absurd (List.eq_of_mem_replicate member) nofun
  | append_singleton earlier latest hypothesis =>
      intro member
      rcases (move_ofTurns count earlier latest).crashed_mem member with before | negative
      · refine hypothesis ?_ before
        intro part shorter
        exact nonneg part (shorter.trans (List.prefix_append _ _))
      · exact absurd negative (Int64.not_lt.mpr (nonneg _ (List.prefix_refl _)))

theorem Ordered.of_concat
    {earlier : List Turn}
    {latest : Turn}
    (ordered : Ordered count (earlier ++ [latest])) :
    Ordered count earlier :=
  fun part shorter => ordered part (shorter.trans (List.prefix_append _ _))

theorem Fits.of_concat
    {earlier : List Turn}
    {latest : Turn}
    (fits : Fits count (earlier ++ [latest])) :
    Fits count earlier :=
  fun part shorter => fits part (shorter.trans (List.prefix_append _ _))

theorem toInt_outstanding_ofTurns
    (ordered : Ordered count turns)
    (fits : Fits count turns) :
    (ofTurns count turns).flight.outstanding.toInt = (ofTurns count turns).unconfirmed :=
  (coherent_ofTurns count turns).toInt_outstanding (ordered turns (List.prefix_refl turns))
    (fits turns (List.prefix_refl turns))

theorem levels_nil (count : Nat) : levels count [] = { 0 } := by
  ext level
  constructor
  · rintro ⟨some, before, rfl⟩
    rw [List.prefix_nil.mp before]
    rfl
  · rintro rfl
    exact ⟨[], List.prefix_refl [], rfl⟩

theorem tracked_start (count : Nat) : (start count).Tracked { 0 } where
  current := rfl
  noted := by
    rintro level (rfl | ⟨activity, present, waiting⟩)
    · rfl
    · rw [List.eq_of_mem_replicate present] at waiting
      cases waiting
  covered := by
    rintro level rfl
    exact ⟨0, .inl rfl, Int64.le_refl 0⟩
  bounded := by
    rintro level rfl
    exact Int.le_refl 0
  positive := nofun

theorem tracked_ofTurns
    (ordered : Ordered count turns)
    (fits : Fits count turns) :
    (ofTurns count turns).Tracked (levels count turns) := by
  induction turns using List.reverseRecOn with
  | nil =>
      rw [levels_nil]
      exact tracked_start count
  | append_singleton earlier latest hypothesis =>
      have before := toInt_outstanding_ofTurns ordered.of_concat fits.of_concat
      have after := toInt_outstanding_ofTurns ordered fits
      have fewer := (coherent_ofTurns count earlier).lowered_le_raised
        (ordered earlier (List.prefix_append _ _))
      rw [levels_concat]
      exact (hypothesis ordered.of_concat fits.of_concat).move
        (move_ofTurns count earlier latest) fewer before after

/-- With no thread in the middle of counting a message, the peak is the greatest level
that was reached, and once a message was counted it is between one and their number. -/
theorem peak_of_noneCounting
    (ordered : Ordered count turns)
    (fits : Fits count turns)
    (quiet : (ofTurns count turns).NoneCounting) :
    IsGreatest (levels count turns) (ofTurns count turns).flight.peak ∧
      (0 < (ofTurns count turns).counted ->
        1 ≤ (ofTurns count turns).flight.peak.toInt ∧
          (ofTurns count turns).flight.peak.toInt ≤ (ofTurns count turns).counted) := by
  have tracked := tracked_ofTurns ordered fits
  have coherent := coherent_ofTurns count turns
  generalize ofTurns count turns = crowd at quiet tracked coherent
  have greatest := tracked.isGreatest quiet
  refine ⟨greatest, ?_⟩
  intro some
  have returned : crowd.raised = crowd.counted := by
    have none : crowd.weigh Activity.late = 0 := by
      apply weigh_eq_zero
      intro activity present
      cases activity with
      | counting rest => exact absurd present (quiet rest)
      | _ => rfl
    rw [coherent.counted, none, Nat.add_zero]
  obtain ⟨level, member, positive⟩ := tracked.positive (by omega)
  have above := Int64.le_iff_toInt_le.mp (greatest.2 member)
  have below := tracked.bounded _ greatest.1
  omega

/-- Any number of threads share the counters, and at no moment have more confirmations
begun than messages have been counted to the end. In every order of their steps the
count of unconfirmed messages is never negative, unless it passes the limit of a word,
which takes as many turns, and no confirmation is a fault. When as many messages have been
counted as confirmed and all threads have returned, nothing is unconfirmed and the count
of sent messages is complete. Whenever no thread is in the middle of counting a message,
the peak is the greatest count of unconfirmed messages so far, and once a message was
counted it is between one and their number. The condition `Fits`, which every order of fewer
than `2 ^ 63` turns meets, excludes an overflow of the counters and nothing else. -/
theorem counters_hold_in_every_order
    (count : Nat)
    (turns : List Turn)
    (ordered : forall earlier, earlier <+: turns ->
      (ofTurns count earlier).begun ≤ (ofTurns count earlier).counted) :
    let crowd := ofTurns count turns
    ((forall earlier, earlier <+: turns -> 0 ≤ (ofTurns count earlier).flight.outstanding) ↔
        Fits count turns) ∧
      (turns.length < 2 ^ 63 -> Fits count turns) ∧
      (Fits count turns -> forall cause, .crashed cause ∉ crowd.threads) ∧
      (forall calls, crowd.Finished calls ->
        crowd.flight.outstanding = 0 ∧ crowd.flight.total = UInt64.ofNat calls) ∧
      (Fits count turns -> crowd.NoneCounting ->
        IsGreatest (levels count turns) crowd.flight.peak ∧
          (0 < crowd.counted ->
            1 ≤ crowd.flight.peak.toInt ∧ crowd.flight.peak.toInt ≤ crowd.counted)) := by
  intro crowd
  refine ⟨nonneg_iff_fits ordered, fits_of_length_lt, not_crashed ordered, ?_,
    peak_of_noneCounting ordered⟩
  intro calls finished
  exact (coherent_ofTurns count turns).of_finished finished

/-- One thread reaches a level of two and reports it only after another thread, which
reached one, has returned and its message is confirmed. -/
theorem counters_hold_for_three_threads :
    let turns : List Turn :=
      [.count 0, .count 1, .advance 1, .advance 0, .advance 0, .advance 1, .advance 0, .advance 0,
        .confirm 2, .advance 2, .advance 1, .advance 1, .confirm 0, .advance 0]
    let crowd := ofTurns 3 turns
    (forall earlier, earlier <+: turns ->
        (ofTurns 3 earlier).begun ≤ (ofTurns 3 earlier).counted) ∧
      Fits 3 turns ∧
      crowd.Finished 2 ∧
      crowd.flight.outstanding = 0 ∧
      crowd.flight.total = 2 ∧
      crowd.flight.peak = 2 ∧
      IsGreatest (levels 3 turns) crowd.flight.peak := by
  intro turns crowd
  have orders : forall earlier, earlier ∈ turns.inits ->
      (ofTurns 3 earlier).begun ≤ (ofTurns 3 earlier).counted := by decide +kernel
  have ordered : forall earlier, earlier <+: turns ->
      (ofTurns 3 earlier).begun ≤ (ofTurns 3 earlier).counted :=
    fun earlier before => orders earlier ((List.mem_inits earlier turns).mpr before)
  have idle : crowd.threads = [.idle, .idle, .idle] := rfl
  have finished : crowd.Finished 2 := by
    refine ⟨?_, rfl, rfl⟩
    intro activity member
    rw [idle] at member
    simpa using member
  have quiet : crowd.NoneCounting := by
    intro rest member
    exact absurd (finished.1 _ member) nofun
  obtain ⟨_, few, _, complete, greatest⟩ := counters_hold_in_every_order 3 turns ordered
  have fits : Fits 3 turns := few (by decide)
  obtain ⟨none, both⟩ := complete 2 finished
  exact ⟨ordered, fits, finished, none, both, rfl, (greatest fits quiet).1⟩

end Crowd
end LatencyMeter
