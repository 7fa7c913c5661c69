import LatencyMeter.Host
import LatencyMeter.Proofs.Loopback.Carriage

/-!
# What the receive thread of a loopback path does

The receive thread stands as the course of a measurement lets it: it receives or handles
messages, and it ends of itself only once its path is closed and the queue is empty. If it has
waited in vain it looks whether it is to stop, and goes on if it is not. If it is, it ends
without another look at the queue, and what is in the queue is lost. As long as the thread has
not ended, the main thread has been told no counts.

A step of the receive thread moves messages along, keeps the path attended, and brings the
thread closer to its end once it was asked to stop. None of its steps loses a message or brings
a lost one back: that is settled when the thread is asked to stop.
-/

namespace LatencyMeter
namespace LoopbackPath

/-- The receive thread receives or handles messages, or it has ended behind the last one. -/
def Stands (path : LoopbackPath Sink) : Prop :=
  match path.point with
  | .receiving | .holding _ _ => True
  | .finished => path.queue = [] ∧ path.senderOpen = false
  | .idle | .crashed _ => False

/-- Whether the receive thread has waited in vain and has not looked yet whether it is to
stop. -/
def waitedInVain (path : LoopbackPath Sink) : Bool :=
  match path.point with
  | .idle => true
  | .receiving | .holding _ _ | .finished | .crashed _ => false

/-- More messages do not matter to a receive thread that has not ended. -/
theorem Stands.enqueue
    {path : LoopbackPath Sink}
    (stands : path.Stands)
    (running : path.point ≠ .finished)
    (queue : List Payload) :
    ({ path with queue := queue } : LoopbackPath Sink).Stands := by
  unfold Stands at *
  dsimp only
  split at stands <;> simp_all

/-- Closing the sending side does not matter to the receive thread at once. -/
theorem Stands.close {path : LoopbackPath Sink} (stands : path.Stands) : path.close.Stands := by
  unfold Stands LoopbackPath.close at *
  dsimp only
  split at stands <;> simp_all

/-! ## Lost messages -/

/-- The messages in the queue of a receive thread that was asked to stop and does not look at
the queue again. -/
def lost (path : LoopbackPath Sink) : List Payload :=
  match path.point with
  | .idle | .finished => if path.stopRequested then path.queue else []
  | .receiving | .holding _ _ | .crashed _ => []

/-- As long as the receive thread was not asked to stop, nothing is lost. -/
theorem lost_of_not_asked
    {path : LoopbackPath Sink}
    (notAsked : path.stopRequested = false) :
    path.lost = [] := by
  unfold lost
  rw [notAsked]
  split <;> rfl

/-- What is lost is all that is in the queue, or nothing. -/
theorem lost_eq_nil_or_queue (path : LoopbackPath Sink) :
    path.lost = [] ∨ path.lost = path.queue := by
  unfold lost
  cases path.point with
  | idle | finished => exact (ite_eq_or_eq _ _ _).symm
  | receiving | holding | crashed => exact .inl rfl

/-- From an empty queue nothing is lost. -/
theorem lost_of_empty {path : LoopbackPath Sink} (empty : path.queue = []) : path.lost = [] :=
  path.lost_eq_nil_or_queue.elim id fun all => all.trans empty

/-- Asking a receive thread to stop brings no lost message back. -/
theorem lost_of_requestStop
    {path : LoopbackPath Sink}
    (nothing : path.requestStop.lost = []) :
    path.lost = [] := by
  cases asked : path.stopRequested with
  | false => exact lost_of_not_asked asked
  | true =>
      have same : path.requestStop = path := by rw [requestStop, ← asked]
      rwa [same] at nothing

/-- A handler that fails does not make a difference to what is lost. -/
theorem lost_handle
    {path : LoopbackPath Sink}
    {next : Point}
    (nothing : ({ path with point := next } : LoopbackPath Sink).lost = [])
    (handler : Handler Sink)
    (events : List StreamEvent) :
    (path.handle handler events next).lost = [] := by
  unfold handle
  split
  · exact nothing
  · rfl

/-- No step of the receive thread loses a message or brings a lost one back. -/
theorem lost_step (handler : Handler Sink) (now : UInt64) (path : LoopbackPath Sink) :
    (path.step handler now).lost = path.lost := by
  obtain ⟨queue, senderOpen, stopRequested, point, inStream, sink⟩ := path
  cases point with
  | receiving =>
      cases queue with
      | cons message rest => rfl
      | nil =>
          cases senderOpen with
          | true => exact lost_of_empty rfl
          | false => exact lost_handle (lost_of_empty rfl) handler _
  | holding message receivedAt => exact lost_handle rfl handler _
  | idle => cases stopRequested <;> rfl
  | finished | crashed => rfl

/-! ## Attended paths -/

/-- A path stands as the course of a measurement lets it, and says what it was told. -/
structure Attended (path : LoopbackPath Listener) (course : Course) : Prop where
  /-- A thread that has waited in vain is about to go on or to end, and one that has lost
  messages has ended before them. -/
  stands : path.waitedInVain = false -> path.lost = [] -> path.Stands
  senderOpen : path.senderOpen = !course.closed
  stopRequested : path.stopRequested = course.stopped
  stopped : course.stopped = true -> course.closed = true
  joined : course.joined = true -> path.point = .finished
  counts : forall counts, course.counts = some counts ->
    course.joined = true ∧ counts = path.sink.roundTrip.counts
  histogram : forall histogram, course.histogram = some histogram ->
    course.joined = true ∧ histogram = path.sink.roundTrip.histogram

/-- The path once what the reporter has written was handed on. -/
def emptied (path : LoopbackPath Listener) : LoopbackPath Listener :=
  { path with sink := { path.sink with reporter := path.sink.reporter.emptied } }

/-- How many steps are at most left to the receive thread once it was asked to stop on a closed
path. -/
def actsToEnd (path : LoopbackPath Sink) : Nat :=
  match path.point with
  | .receiving | .idle => 2 * path.queue.length + 1
  | .holding _ _ => 2 * path.queue.length + 2
  | .finished | .crashed _ => 0

variable {path later : LoopbackPath Listener} {settings : PingSettings} {course : Course}
  {ledger : Ledger} {pickups : List Pickup} {now : UInt64}

theorem Carries.emptied (carries : path.Carries settings ledger pickups now) :
    path.emptied.Carries settings ledger pickups now :=
  { carries with }

theorem Attended.emptied (attended : path.Attended course) : path.emptied.Attended course :=
  { attended with }

theorem Attended.start (listener : Listener) :
    (LoopbackPath.start listener).Attended { Course.blank with opened := true } where
  stands _ _ := trivial
  senderOpen := rfl
  stopRequested := rfl
  stopped := nofun
  joined := nofun
  counts := nofun
  histogram := nofun

/-- As long as the receive thread has not ended, the main thread has been told nothing. -/
theorem Attended.move
    (attended : path.Attended course)
    (running : path.point ≠ .finished)
    {later : LoopbackPath Listener}
    (stands : later.waitedInVain = false -> later.lost = [] -> later.Stands)
    (senderOpen : later.senderOpen = path.senderOpen)
    (stopRequested : later.stopRequested = path.stopRequested) :
    later.Attended course where
  stands := stands
  senderOpen := senderOpen.trans attended.senderOpen
  stopRequested := stopRequested.trans attended.stopRequested
  stopped := attended.stopped
  -- The main thread is told only of a thread that has ended, and this one has not.
  joined joined := absurd (attended.joined joined) running
  counts counts told := absurd (attended.joined (attended.counts counts told).1) running
  histogram histogram told :=
    absurd (attended.joined (attended.histogram histogram told).1) running

/-- The receive thread of an open path was not asked to stop. -/
theorem Attended.not_stopRequested
    (attended : path.Attended course)
    (isOpen : path.senderOpen = true) :
    path.stopRequested = false := by
  have notClosed : course.closed = false := by simpa [isOpen] using attended.senderOpen
  rw [attended.stopRequested]
  exact Bool.eq_false_of_not_eq_true fun stopped =>
    absurd (attended.stopped stopped) (by simp [notClosed])

/-- The path of a receive thread that was asked to stop is closed. -/
theorem Attended.not_open
    (attended : path.Attended course)
    (asked : path.stopRequested = true) :
    path.senderOpen = false := by
  refine Bool.eq_false_of_not_eq_true fun isOpen => ?_
  rw [attended.not_stopRequested isOpen] at asked
  contradiction

/-- The receive thread has not crashed. -/
theorem Attended.not_crashed (attended : path.Attended course) (cause : Cause) :
    path.point ≠ .crashed cause := by
  intro crashed
  have stands := attended.stands (by rw [waitedInVain, crashed]) (by rw [lost, crashed])
  rw [Stands, crashed] at stands
  exact stands

/-- The receive thread ends only once the path is closed. -/
theorem Attended.running
    (attended : path.Attended course)
    (isOpen : path.senderOpen = true) :
    path.point ≠ .finished := by
  intro finished
  have stands := attended.stands (by rw [waitedInVain, finished])
    (lost_of_not_asked (attended.not_stopRequested isOpen))
  rw [Stands, finished, isOpen] at stands
  exact absurd stands.2 (by decide)

/-- The receive thread has not ended as long as the path is open. -/
theorem Attended.not_ended
    (attended : path.Attended course)
    (isOpen : path.senderOpen = true) :
    path.ended = false := by
  unfold ended
  cases point : path.point with
  | finished => exact absurd point (attended.running isOpen)
  | crashed cause => exact absurd point (attended.not_crashed cause)
  | receiving | holding | idle => rfl

/-- A receive thread that can be joined has ended, and not by a fault. -/
theorem Attended.finished_of_joined
    (attended : path.Attended course)
    {fault : Option TransportFault}
    (joined : (Receiver.loopback path).joined? = some fault) :
    path.point = .finished ∧ fault = none := by
  unfold Receiver.joined? LoopbackPath.ended LoopbackPath.joined at joined
  cases point : path.point with
  | crashed cause => exact absurd point (attended.not_crashed cause)
  | _ => simp_all

/-- A receive thread that has ended has lost what is still in the queue. -/
theorem Attended.lost_eq_queue
    (attended : path.Attended course)
    (finished : path.point = .finished) :
    path.lost = path.queue := by
  have lost : path.lost = if path.stopRequested then path.queue else [] := by
    rw [LoopbackPath.lost, finished]
  cases asked : path.stopRequested with
  | true => rw [lost, asked, if_pos rfl]
  | false =>
      have nothing := lost_of_not_asked asked
      have stands := attended.stands (by rw [waitedInVain, finished]) nothing
      rw [Stands, finished] at stands
      rw [nothing, stands.1]

/-! ## Steps -/

/-- What a step of the receive thread makes of a path. -/
structure ActsTo
    (path : LoopbackPath Listener)
    (settings : PingSettings)
    (course : Course)
    (pickups : List Pickup)
    (now : UInt64)
    (later : LoopbackPath Listener) :
    Prop where
  carries : later.Carries settings course.ledger (pickups ++ path.held) now
  attended : later.Attended course
  closer : course.stopped = true -> later.actsToEnd ≤ path.actsToEnd - 1

section Steps

variable (carries : path.Carries settings course.ledger pickups now)
  (attended : path.Attended course)

include carries attended

theorem acts_take
    (receiving : path.point = .receiving)
    {message : Payload}
    {rest : List Payload}
    (queue : path.queue = message :: rest) :
    path.ActsTo settings course pickups now (path.step Listener.deliver now) := by
  have none : path.held = [] := by rw [held, receiving]
  have taken : path.step Listener.deliver now =
      { path with queue := rest, point := .holding message now } := by
    simp only [step, receiving, queue]
  rw [taken]
  refine ⟨?_, attended.move (by simp [receiving]) (fun _ _ => trivial) rfl rfl, fun _ => ?_⟩
  · rw [none, List.append_nil]
    exact carries.take receiving queue
  · rw [actsToEnd, actsToEnd, receiving, queue]
    exact Nat.le_refl _

/-- The receive thread handles the message that it holds. -/
theorem acts_handle
    (positive : 0 < settings.geometry.bucketWidth)
    (room : settings.messageCount < 2 ^ 63)
    {message : Payload}
    {receivedAt : UInt64}
    (holding : path.point = .holding message receivedAt) :
    path.ActsTo settings course pickups now (path.step Listener.deliver now) := by
  have one : path.held = [⟨message, receivedAt⟩] := by rw [held, holding]
  obtain ⟨sink, handled, further⟩ := carries.handle positive room holding
  rw [handled]
  refine ⟨?_, attended.move (by simp [holding]) (fun _ _ => trivial) rfl rfl, fun _ => ?_⟩
  · rw [one]
    exact further
  · rw [actsToEnd, actsToEnd, holding]
    exact Nat.le_refl _

/-- The receive thread waits in vain for a message on an open path. -/
theorem acts_wait
    (receiving : path.point = .receiving)
    (queue : path.queue = [])
    (isOpen : path.senderOpen = true) :
    path.ActsTo settings course pickups now (path.step Listener.deliver now) := by
  have none : path.held = [] := by rw [held, receiving]
  have waits : path.step Listener.deliver now = { path with point := .idle } := by
    simp only [step, receiving, queue, isOpen, if_true]
  rw [waits]
  refine ⟨?_, attended.move (by simp [receiving]) ?_ rfl rfl, fun stopped => ?_⟩
  · rw [none, List.append_nil]
    exact carries.stand none rfl
  · intro notWaiting
    rw [waitedInVain] at notWaiting
    contradiction
  · have closed := attended.not_open (attended.stopRequested.trans stopped)
    rw [isOpen] at closed
    contradiction

/-- The receive thread looks whether it is to stop, and goes on or ends. -/
theorem acts_look (idle : path.point = .idle) :
    path.ActsTo settings course pickups now (path.step Listener.deliver now) := by
  have none : path.held = [] := by rw [held, idle]
  have looks : path.step Listener.deliver now =
      { path with point := if path.stopRequested then .finished else .receiving } := by
    rw [step, idle]
  rw [looks]
  refine ⟨?_, attended.move (by simp [idle]) ?_ rfl rfl, fun stopped => ?_⟩
  · rw [none, List.append_nil]
    exact carries.stand none (by cases path.stopRequested <;> rfl)
  · intro _ nothing
    cases asked : path.stopRequested with
    | false =>
        rw [if_neg Bool.false_ne_true]
        trivial
    | true =>
        -- If the thread has lost nothing by this, then the queue was empty.
        rw [asked, if_pos rfl, lost] at nothing
        exact ⟨by simpa [asked] using nothing, attended.not_open asked⟩
  · rw [attended.stopRequested, stopped]
    exact Nat.zero_le _

/-- The receive thread ends behind the last message of a closed path. -/
theorem acts_finish
    (receiving : path.point = .receiving)
    (queue : path.queue = [])
    (closed : path.senderOpen = false) :
    path.ActsTo settings course pickups now (path.step Listener.deliver now) := by
  have none : path.held = [] := by rw [held, receiving]
  obtain ⟨sink, finished, further⟩ := carries.finish receiving queue closed
  rw [finished]
  refine ⟨?_, attended.move (by simp [receiving]) (fun _ _ => ⟨queue, closed⟩) rfl rfl,
    fun _ => Nat.zero_le _⟩
  rw [none, List.append_nil]
  exact further

/-- A receive thread that has ended does nothing. -/
theorem acts_nothing (finished : path.point = .finished) :
    path.ActsTo settings course pickups now (path.step Listener.deliver now) := by
  have none : path.held = [] := by rw [held, finished]
  have same : path.step Listener.deliver now = path := by rw [step, finished]
  rw [same]
  refine ⟨?_, attended, fun _ => ?_⟩
  · rwa [none, List.append_nil]
  · rw [actsToEnd, finished]
    exact Nat.le_refl _

/-- Whatever the receive thread does next, it moves messages along and keeps the path
attended. -/
theorem acts_step
    (positive : 0 < settings.geometry.bucketWidth)
    (room : settings.messageCount < 2 ^ 63) :
    path.ActsTo settings course pickups now (path.step Listener.deliver now) := by
  -- By where the thread stands, and by what it finds in the queue if it receives.
  cases point : path.point with
  | crashed cause => exact absurd point (attended.not_crashed cause)
  | finished => exact acts_nothing carries attended point
  | idle => exact acts_look carries attended point
  | holding message receivedAt => exact acts_handle carries attended positive room point
  | receiving =>
      cases queue : path.queue with
      | cons message rest => exact acts_take carries attended point queue
      | nil =>
          cases senderOpen : path.senderOpen with
          | true => exact acts_wait carries attended point queue senderOpen
          | false => exact acts_finish carries attended point queue senderOpen

end Steps
end LoopbackPath
end LatencyMeter
