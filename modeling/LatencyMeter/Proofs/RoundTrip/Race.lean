import LatencyMeter.Proofs.Flight
import LatencyMeter.Proofs.RoundTrip.ReceiveThread

/-!
# Counting a message against confirming one

A sending thread counts a message as sent before it counts it as unconfirmed. In
between, its number is below the count of sent messages, so a receive thread accepts a
message that bears it, although no such message was handed over yet. This module runs
the two threads in any order and says when a confirmation is a fault: exactly when
every number below the count of sent messages has been accepted while the sending
thread is between its two steps.

The reader may take the messages that the receive thread hears to be forged: nothing is
assumed about them.
-/

namespace LatencyMeter

/-- A sending thread that counts messages, a receive thread, and an observer of both. -/
structure Race where
  receiver : ReceiveThread
  /-- What the sending thread has left to do for the message that it counts. -/
  counting : Sending Unit
  /-- How often the count of unconfirmed messages was raised. -/
  raised : Nat
  /-- The accepted numbers, the latest first. -/
  accepted : EchoHistory

namespace Race

/-- What may happen next. -/
inductive Turn
  /-- The sending thread begins to count a message, unless it is counting one. -/
  | begin
  /-- The sending thread takes a step. -/
  | count
  /-- The receive thread hears an event, unless it is handling one. -/
  | hear (event : StreamEvent)
  /-- The receive thread takes a step. -/
  | handle

/-- Two threads that have not done anything. -/
def start (histogram : Histogram) : Race :=
  ⟨ReceiveThread.start histogram, .done (), 0, []⟩

/-- The shared counters. -/
def flight (race : Race) : Flight := race.receiver.flight

/-- Take a turn. -/
def step (race : Race) : Turn -> Race
  | .begin =>
      match race.counting with
      | .done _ => { race with counting := Sending.countSent }
      | _ => race
  | .count =>
      match race.counting with
      | .ask request next =>
          let (answer, flight) := Flight.answer ⟨0, none⟩ request race.flight
          { race with
            receiver := race.receiver.withFlight flight
            counting := next answer
            raised := race.raised + request.raises }
      | _ => race
  | .hear event => { race with receiver := race.receiver.hear event }
  | .handle =>
      { race with
        receiver := race.receiver.step
        accepted := race.receiver.accepting?.toList ++ race.accepted }

/-- The threads after some turns. -/
def ofTurns (histogram : Histogram) (turns : List Turn) : Race :=
  turns.foldl step (start histogram)

/-- The sending thread has counted a message as sent but not as unconfirmed. -/
def Midway (race : Race) : Prop :=
  exists next, race.counting = .ask .raiseOutstanding next

/-- The receive thread has accepted every number below the count of sent messages, the
last of them before its message was counted as unconfirmed. -/
def Overtaken (race : Race) : Prop :=
  race.Midway ∧ forall number, number < race.flight.total -> number ∈ race.accepted

/-! ## What counting a message leaves to do -/

/-- What may be left to do of counting a message, and by how much the count of sent
messages is ahead of the count of raises meanwhile. -/
inductive Remainder : Sending Unit -> Nat -> Prop
  | nothing : Remainder (.done ()) 0
  | everything : Remainder Sending.countSent 0
  | outstanding :
      Remainder (.ask .raiseOutstanding fun level => .ask (.raisePeak level) .done) 1
  | peak (level : Int64) : Remainder (.ask (.raisePeak level) .done) 0

namespace Remainder

variable {program : Sending Unit} {ahead : Nat}

/-- The counts of sent messages and of raises never are further apart than one. -/
theorem ahead_le (remainder : Remainder program ahead) : ahead ≤ 1 := by
  cases remainder <;> decide

/-- They are apart exactly while the request for a raise is the next one. -/
theorem ahead_eq_one_iff (remainder : Remainder program ahead) :
    ahead = 1 ↔ exists next, program = .ask .raiseOutstanding next := by
  cases remainder with
  | nothing => simp
  | everything => simp [Sending.countSent_eq]
  | outstanding => simp
  | peak level => simp

end Remainder

/-! ## What every turn preserves -/

/-- The receive thread agrees with the observer, and the count of sent messages is the
count of raises, or one more. Short of the limit of the count of unconfirmed messages,
whatever was accepted or is being judged is below the count of sent messages. -/
structure Coherent (race : Race) (ahead : Nat) : Prop where
  remainder : Remainder race.counting ahead
  agrees : race.receiver.Agrees race.raised race.accepted
  total : race.flight.total = UInt64.ofNat (race.raised + ahead)
  below : race.raised < 2 ^ 63 ->
    forall number, number ∈ race.accepted -> number < race.flight.total
  judged : race.raised < 2 ^ 63 ->
    forall echo total, race.receiver.point = .judging echo total -> total ≤ race.flight.total

theorem coherent_start (histogram : Histogram) : (start histogram).Coherent 0 where
  remainder := .nothing
  agrees := ReceiveThread.agrees_start histogram
  total := rfl
  below := by
    intro _ number member
    exact absurd member List.not_mem_nil
  judged := by
    intro _ echo total judging
    exact absurd judging (by simp [start, ReceiveThread.start])

theorem step_count_of_ask
    {race : Race}
    {request : Sending.Request}
    {next : request.Answer -> Sending Unit}
    (counting : race.counting = .ask request next) :
    race.step .count =
      { race with
        receiver := race.receiver.withFlight (Flight.answer ⟨0, none⟩ request race.flight).2
        counting := next (Flight.answer ⟨0, none⟩ request race.flight).1
        raised := race.raised + request.raises } := by
  unfold step
  rw [counting]

namespace Coherent

variable {race : Race} {ahead : Nat}

theorem toNat_total
    (coherent : race.Coherent ahead)
    (few : race.raised < 2 ^ 63) :
    race.flight.total.toNat = race.raised + ahead := by
  have near := coherent.remainder.ahead_le
  have fits : race.raised + ahead < 2 ^ 64 := by omega
  rw [coherent.total]
  exact UInt64.toNat_ofNat_of_lt' fits

theorem step_begin (coherent : race.Coherent ahead) :
    exists later, (race.step .begin).Coherent later := by
  unfold step
  dsimp only
  split
  · next settled =>
    have remainder := coherent.remainder
    rw [settled] at remainder
    cases remainder with
    | nothing => exact ⟨0, { coherent with remainder := .everything }⟩
  · exact ⟨ahead, coherent⟩

/-- A step of the sending thread keeps what is accepted below the count of sent messages,
because no step lowers that count. -/
theorem step_count_of_ask
    (coherent : race.Coherent ahead)
    {request : Sending.Request}
    {next : request.Answer -> Sending Unit}
    {later : Nat}
    (counting : race.counting = .ask request next)
    (remainder : Remainder (next (Flight.answer ⟨0, none⟩ request race.flight).1) later)
    (total : (Flight.answer ⟨0, none⟩ request race.flight).2.total =
      UInt64.ofNat (race.raised + request.raises + later))
    (ordered : ahead ≤ request.raises + later) :
    (race.step .count).Coherent later := by
  have agrees := coherent.agrees.withFlight
    (Flight.outstanding_answer ⟨0, none⟩ request race.flight)
  have near := remainder.ahead_le
  have grows (few : race.raised + request.raises < 2 ^ 63) :
      race.flight.total ≤ (Flight.answer ⟨0, none⟩ request race.flight).2.total := by
    have fits : race.raised + request.raises + later < 2 ^ 64 := by omega
    rw [UInt64.le_iff_toNat_le, coherent.toNat_total (by omega), total,
      UInt64.toNat_ofNat_of_lt' fits]
    omega
  rw [Race.step_count_of_ask counting]
  refine ⟨remainder, agrees, total, ?_, ?_⟩
  · intro few number member
    have before := coherent.below (Nat.lt_of_le_of_lt (Nat.le_add_right _ _) few) number member
    exact UInt64.lt_of_lt_of_le before (grows few)
  · intro few echo upTo judging
    have before := coherent.judged (Nat.lt_of_le_of_lt (Nat.le_add_right _ _) few) echo upTo
      judging
    exact UInt64.le_trans before (grows few)

/-- A step of the sending thread is one of the three that count a message. -/
theorem step_count (coherent : race.Coherent ahead) :
    exists later, (race.step .count).Coherent later := by
  have remainder := coherent.remainder
  have total := coherent.total
  generalize counting : race.counting = program at remainder
  cases remainder with
  | nothing =>
      refine ⟨0, ?_⟩
      have idle : race.step .count = race := by rw [step, counting]
      rwa [idle]
  | everything =>
      refine ⟨1, coherent.step_count_of_ask counting .outstanding ?_ (Nat.zero_le 1)⟩
      change race.flight.total + 1 = _
      rw [total]
      exact (UInt64.ofNat_add race.raised 1).symm
  | outstanding =>
      exact ⟨0, coherent.step_count_of_ask counting (.peak _) total (Nat.le_refl 1)⟩
  | peak level =>
      exact ⟨0, coherent.step_count_of_ask counting .nothing total (Nat.le_refl 0)⟩

theorem step_hear (coherent : race.Coherent ahead) (event : StreamEvent) :
    (race.step (.hear event)).Coherent ahead := by
  have flight : (race.step (.hear event)).flight = race.flight :=
    (race.receiver.hear_eq event).1
  refine ⟨coherent.remainder, coherent.agrees.hear event, ?_, ?_, ?_⟩
  · rw [flight]
    exact coherent.total
  · rw [flight]
    exact coherent.below
  · rw [flight]
    intro few echo total judging
    exact coherent.judged few echo total (ReceiveThread.point_hear_of_judging judging)

/-- The receive thread accepts only numbers below a count of sent messages that it has
read, and that count has not been lowered since. -/
theorem step_handle (coherent : race.Coherent ahead) :
    (race.step .handle).Coherent ahead := by
  have total : (race.step .handle).flight.total = race.flight.total :=
    race.receiver.total_step
  refine ⟨coherent.remainder, coherent.agrees.step, ?_, ?_, ?_⟩
  · rw [total]
    exact coherent.total
  · rw [total]
    intro few number member
    rcases List.mem_append.mp member with accepted | earlier
    · have accepts := Option.mem_toList.mp accepted
      obtain ⟨echo, upTo, judging, _, before⟩ := ReceiveThread.lt_of_accepting accepts
      exact UInt64.lt_of_lt_of_le before (coherent.judged few echo upTo judging)
    · exact coherent.below few number earlier
  · rw [total]
    intro _ echo upTo judging
    exact UInt64.le_of_eq (ReceiveThread.point_of_step_judging judging)

theorem step (coherent : race.Coherent ahead) (turn : Turn) :
    exists later, (race.step turn).Coherent later := by
  cases turn with
  | begin => exact coherent.step_begin
  | count => exact coherent.step_count
  | hear event => exact ⟨ahead, coherent.step_hear event⟩
  | handle => exact ⟨ahead, coherent.step_handle⟩

/-- While the receive thread is about to confirm a number, the count of unconfirmed
messages would become negative exactly if the number overtook its message: otherwise
the accepted numbers are no more than the raises, because they are distinct and below
the count of sent messages. -/
theorem lower_neg_iff
    (coherent : race.Coherent ahead)
    {echo : Echo}
    (confirming : race.receiver.point = .confirming echo)
    (few : race.raised < 2 ^ 63) :
    race.flight.lower.outstanding < 0 ↔ race.Overtaken := by
  have near := coherent.remainder.ahead_le
  have total := coherent.toNat_total few
  have below := coherent.below few
  have distinct := coherent.agrees.nodup
  have bound := EchoHistory.length_le_of_nodup distinct below
  have current := List.length_pos_of_mem (coherent.agrees.confirming_mem echo confirming)
  have complete := EchoHistory.length_eq_iff_complete distinct below
  have outstanding : race.flight.lower.outstanding =
      Int64.ofInt (race.raised - race.accepted.length) :=
    coherent.agrees.lower_outstanding confirming
  have exceeds : race.flight.lower.outstanding < 0 ↔ race.raised < race.accepted.length := by
    have word : race.flight.lower.outstanding.toInt =
        (race.raised : Int) - race.accepted.length := by
      rw [outstanding]
      exact Int64.toInt_ofInt_of_le (by omega) (by omega)
    rw [Int64.lt_iff_toInt_lt, word]
    change (race.raised : Int) - race.accepted.length < 0 ↔ _
    omega
  rw [exceeds, Overtaken, ← complete, Midway, ← coherent.remainder.ahead_eq_one_iff]
  omega

/-- An overtaken message leaves one accepted number more than there were raises. -/
theorem length_of_overtaken
    (coherent : race.Coherent ahead)
    (few : race.raised < 2 ^ 63)
    (overtaken : race.Overtaken) :
    race.accepted.length = race.raised + 1 := by
  obtain ⟨midway, complete⟩ := overtaken
  have apart := coherent.remainder.ahead_eq_one_iff.mpr midway
  have all := (EchoHistory.length_eq_iff_complete coherent.agrees.nodup
    (coherent.below few)).mpr complete
  rw [all, coherent.toNat_total few, apart]

end Coherent

/-! ## Runs -/

theorem coherent_ofTurns (histogram : Histogram) (turns : List Turn) :
    exists ahead, (ofTurns histogram turns).Coherent ahead := by
  unfold ofTurns
  induction turns using List.reverseRecOn with
  | nil => exact ⟨0, coherent_start histogram⟩
  | append_singleton earlier latest hypothesis =>
      obtain ⟨ahead, coherent⟩ := hypothesis
      rw [List.foldl_append]
      exact coherent.step latest

/-- In every run, what a confirmation leaves as the count of unconfirmed messages is how
often the count was raised less how many numbers were accepted, and the confirmation is
a fault if that is negative. Short of the limit of the count this happens exactly when a
number overtook its message, and the count then is minus one. -/
theorem confirmation_fails_iff_overtaken
    (histogram : Histogram)
    (turns : List Turn)
    {echo : Echo}
    (confirming : (ofTurns histogram turns).receiver.point = .confirming echo) :
    let race := ofTurns histogram turns
    let level := race.flight.lower.outstanding
    level = Int64.ofInt (race.raised - race.accepted.length) ∧
      race.receiver.step.point = (if level < 0 then .crashed (.flight level) else .idle) ∧
      (race.raised < 2 ^ 63 ->
        (level < 0 ↔ race.Overtaken) ∧ (race.Overtaken -> level = -1)) := by
  intro race level
  obtain ⟨ahead, coherent⟩ := coherent_ofTurns histogram turns
  have outstanding : level = Int64.ofInt (race.raised - race.accepted.length) :=
    coherent.agrees.lower_outstanding confirming
  refine ⟨outstanding, race.receiver.point_step_confirming confirming, ?_⟩
  intro few
  refine ⟨coherent.lower_neg_iff confirming few, ?_⟩
  intro overtaken
  have length : race.accepted.length = race.raised + 1 :=
    coherent.length_of_overtaken few overtaken
  have less : (race.raised : Int) - ((race.raised + 1 : Nat) : Int) = -1 := by omega
  rw [outstanding, length, less]
  rfl

/-- The first message is counted as sent, and a forged echo of it is accepted before it
is counted as unconfirmed. -/
theorem confirmation_fails_after_forged_echo :
    let forged : StreamEvent := .data (List.replicate 20 0) 7 none false
    let race := ofTurns default [.begin, .count, .hear forged, .handle, .handle]
    race.receiver.point = .confirming ⟨⟨0, 0, 0⟩, 7, false⟩ ∧
      race.raised < 2 ^ 63 ∧
      race.Overtaken ∧
      race.receiver.step.point = .crashed (.flight (-1)) := by
  intro forged race
  have confirming : race.receiver.point = .confirming ⟨⟨0, 0, 0⟩, 7, false⟩ := by
    decide +kernel
  have few : race.raised < 2 ^ 63 := by decide +kernel
  have below : race.flight.lower.outstanding < 0 := by decide +kernel
  obtain ⟨_, crashes, negative⟩ :=
    confirmation_fails_iff_overtaken default
      [.begin, .count, .hear forged, .handle, .handle] confirming
  obtain ⟨overtaken, level⟩ := negative few
  refine ⟨confirming, few, overtaken.mp below, ?_⟩
  rw [crashes, if_pos below, level (overtaken.mp below)]

/-- The same run one step further: the forged echo ends the receive thread. -/
theorem forged_echo_crashes_receiver :
    let forged : StreamEvent := .data (List.replicate 20 0) 7 none false
    (ofTurns default [.begin, .count, .hear forged, .handle, .handle, .handle]).receiver.point =
      .crashed (.flight (-1)) := by
  decide +kernel

end Race
end LatencyMeter
