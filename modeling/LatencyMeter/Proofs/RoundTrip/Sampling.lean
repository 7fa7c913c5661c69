import LatencyMeter.Proofs.RoundTrip.ReceiveThread

/-!
# What a receive thread hands to its histogram

A confirmed message that carries its send time hands one interval to the histogram, which
records it or rejects it. Nothing else that a receive thread does changes the histogram.

The message that a thread handles is the one that it heard last, and each accepted number
is the number of that message. So is the number of each interval, and it was accepted
before: `unsettled_step_sublist` follows the accepted numbers until they are settled.
-/

namespace LatencyMeter

/-- A send time and an arrival that are handed to a histogram. -/
structure Interval where
  number : UInt64
  sentAt : UInt64
  receivedAt : UInt64
  deriving DecidableEq, Repr

/-- The histogram after an interval was handed to it, be it recorded or rejected. -/
def Interval.record (interval : Interval) (histogram : Histogram) : Histogram :=
  match histogram.recordInterval interval.sentAt interval.receivedAt with
  | .ok recorded => recorded
  | .error _ => histogram

/-- The interval of a message. -/
def Echo.interval (echo : Echo) : Interval :=
  ⟨echo.header.number, echo.header.sentAt, echo.receivedAt⟩

namespace RoundTrip

/-- A sampled message hands its interval to the histogram if it carries its send time. -/
theorem histogram_sample
    (state : RoundTrip)
    (header : Header)
    (receivedAt : UInt64) :
    (state.sample header receivedAt).state.histogram =
      if header.isTimestamped then
        (Interval.mk header.number header.sentAt receivedAt).record state.histogram
      else state.histogram := by
  unfold sample Interval.record
  by_cases timestamped : header.isTimestamped = true
  · rw [if_pos timestamped, if_pos timestamped]
    cases state.histogram.recordInterval header.sentAt receivedAt <;> rfl
  · rw [if_neg timestamped, if_neg timestamped]

/-- An accepted message is sampled unless its confirmation is a fault. -/
theorem histogram_accept
    (state : RoundTrip)
    (header : Header)
    (receivedAt : UInt64)
    (retransmit : Bool) :
    (state.accept header receivedAt retransmit).state.histogram =
      if state.flight.lower.outstanding < 0 then state.histogram
      else if header.isTimestamped then
        (Interval.mk header.number header.sentAt receivedAt).record state.histogram
      else state.histogram := by
  unfold accept Flight.confirm
  dsimp only
  by_cases negative : state.flight.lower.outstanding < 0
  · rw [if_pos negative, if_pos negative]
  · rw [if_neg negative, if_neg negative]
    exact histogram_sample _ header receivedAt

end RoundTrip

namespace ReceiveThread

/-- The message that is being handled. -/
def Point.echo? : Point -> Option Echo
  | .reading echo => some echo
  | .judging echo _ => some echo
  | .confirming echo => some echo
  | .idle => none
  | .crashed _ => none

/-- The accepted number that has not been confirmed yet, if there is one. -/
def unsettled (thread : ReceiveThread) : List UInt64 :=
  match thread.point with
  | .confirming echo => [echo.header.number]
  | _ => []

/-- The interval that the next step hands to the histogram, if it does. -/
def sampling? (thread : ReceiveThread) : Option Interval :=
  match thread.point with
  | .confirming echo =>
      if thread.flight.lower.outstanding < 0 then none
      else if echo.header.isTimestamped then some echo.interval
      else none
  | _ => none

/-! ## The message in hand -/

/-- Hearing an event begins the handling of a message only if the event carries it. -/
theorem echo?_hear
    {thread : ReceiveThread}
    {event : StreamEvent}
    {echo : Echo}
    (handled : (thread.hear event).point.echo? = some echo) :
    thread.point.echo? = some echo ∨
      exists payload source, event = .data payload echo.receivedAt source echo.retransmit ∧
        Header.decode payload = .ok echo.header := by
  unfold hear at handled
  split at handled
  · next idle =>
    split at handled
    · next payload receivedAt source retransmit =>
      split at handled
      · next header decoded =>
        obtain rfl := Option.some.inj handled
        exact .inr ⟨payload, source, rfl, decoded⟩
      · exact .inl handled
    · exact .inl handled
  · exact .inl handled

/-- No step takes up another message. -/
theorem echo?_step
    {thread : ReceiveThread}
    {echo : Echo}
    (handled : thread.step.point.echo? = some echo) :
    thread.point.echo? = some echo := by
  have stepped := thread.stepped
  generalize thread.step = next at stepped handled
  cases stepped with
  | idles idle => exact handled
  | stops crashed => exact handled
  | reads reading =>
      rw [reading]
      exact handled
  | accepts judging fresh =>
      rw [judging]
      exact handled
  | ignores judging known => exact absurd handled (by simp [Point.echo?])
  | confirms confirming =>
      dsimp only at handled
      split at handled <;> exact absurd handled (by simp [Point.echo?])

/-- The accepted number is that of the message in hand. -/
theorem echo?_of_accepting
    {thread : ReceiveThread}
    {number : UInt64}
    (accepts : thread.accepting? = some number) :
    exists echo, thread.point.echo? = some echo ∧ echo.header.number = number := by
  obtain ⟨echo, total, judging, same, _⟩ := lt_of_accepting accepts
  exact ⟨echo, by rw [judging, Point.echo?], same⟩

/-- The interval is that of the message in hand, which carries its send time. -/
theorem echo?_of_sampling
    {thread : ReceiveThread}
    {interval : Interval}
    (samples : thread.sampling? = some interval) :
    exists echo, thread.point.echo? = some echo ∧ echo.header.isTimestamped = true ∧
      interval = echo.interval := by
  unfold sampling? at samples
  split at samples
  · next echo confirming =>
    split_ifs at samples with negative timestamped
    obtain rfl := Option.some.inj samples
    exact ⟨echo, by rw [confirming, Point.echo?], timestamped, rfl⟩
  · exact absurd samples (by simp)

/-! ## Accepted numbers and intervals -/

theorem unsettled_hear (thread : ReceiveThread) (event : StreamEvent) :
    (thread.hear event).unsettled = thread.unsettled := by
  obtain ⟨_, _, stays | ⟨idle, echo, begins⟩⟩ := hear_eq thread event
  · rw [unsettled, unsettled, stays]
  · rw [unsettled, unsettled, idle, begins]

/-- The numbers that a step leaves unsettled or hands to the histogram were unsettled
before, or the step accepts them. -/
theorem unsettled_step_sublist (thread : ReceiveThread) :
    (thread.step.unsettled ++ thread.sampling?.toList.map Interval.number).Sublist
      (thread.accepting?.toList ++ thread.unsettled) := by
  have stepped := thread.stepped
  generalize thread.step = next at stepped ⊢
  cases stepped with
  | idles idle => simp [unsettled, sampling?, idle]
  | stops crashed => simp [unsettled, sampling?, crashed]
  | reads reading => simp [unsettled, sampling?, reading]
  | accepts judging fresh => simp [unsettled, sampling?, accepting?, judging, fresh]
  | ignores judging known => simp [unsettled, sampling?, judging]
  | confirms confirming =>
      rw [unsettled, unsettled, sampling?, confirming]
      split_ifs <;> simp [Echo.interval]

/-! ## The histogram -/

/-- Events other than messages that are confirmed leave the histogram alone. -/
theorem histogram_hear (thread : ReceiveThread) (event : StreamEvent) :
    (thread.hear event).roundTrip.histogram = thread.roundTrip.histogram := by
  unfold hear
  split
  · split
    · split <;> rfl
    · next noData =>
      cases event with
      | data payload receivedAt source retransmit =>
          exact absurd rfl (noData payload receivedAt source retransmit)
      | beginOfStream source => rfl
      | loss => rfl
      | endOfStream source => rfl
  · rfl

/-- A step hands at most one interval to the histogram. -/
theorem histogram_step (thread : ReceiveThread) :
    thread.step.roundTrip.histogram =
      thread.sampling?.toList.foldr Interval.record thread.roundTrip.histogram := by
  have stepped := thread.stepped
  generalize thread.step = next at stepped ⊢
  cases stepped with
  | idles idle => rw [sampling?, idle, Option.toList_none, List.foldr_nil]
  | stops crashed => rw [sampling?, crashed, Option.toList_none, List.foldr_nil]
  | reads reading => rw [sampling?, reading, Option.toList_none, List.foldr_nil]
  | accepts judging fresh => rw [sampling?, judging, Option.toList_none, List.foldr_nil]
  | ignores judging known =>
      rw [sampling?, judging, Option.toList_none, List.foldr_nil]
      rfl
  | confirms confirming =>
      rw [sampling?, confirming]
      dsimp only
      rw [RoundTrip.histogram_accept]
      unfold flight
      split_ifs <;> rfl

end ReceiveThread
end LatencyMeter
