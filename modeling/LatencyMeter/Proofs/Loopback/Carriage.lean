import LatencyMeter.LoopbackPath
import LatencyMeter.Proofs.Loopback.Pickup

/-!
# What a loopback path carries

The messages that were handed over to a loopback path have arrived, or the receive thread
holds the next one, or they wait in the queue, in the order of their numbers. The receive
thread only moves them along: it takes a message, which was stamped before, hands it to the
measurement, which has not heard it, and ends when the queue of a closed path is empty.
-/

namespace LatencyMeter

/-! ## Messages on their way -/

/-- The messages that were handed over have been taken or wait in a queue, in their order. -/
structure PingSettings.InTransit
    (settings : PingSettings)
    (handed : List Handover)
    (taken : List Pickup)
    (queue : List Payload)
    (now : UInt64) :
    Prop where
  handed_eq : handed = (taken.map Pickup.message ++ queue).map Handover.accepted
  /-- A message was stamped before it was taken. -/
  timely : forall number pickup, taken[number]? = some pickup ->
    settings.IsTimely pickup.receivedAt number pickup.message
  waiting : forall place message, queue[place]? = some message ->
    settings.IsTimely now (taken.length + place) message

namespace PingSettings.InTransit

variable {settings : PingSettings} {handed : List Handover} {taken : List Pickup}
  {queue : List Payload} {now : UInt64} {message : Payload}

theorem nothing : settings.InTransit [] [] [] now := ⟨rfl, nofun, nofun⟩

theorem wait
    (inTransit : settings.InTransit handed taken queue now)
    {later : UInt64}
    (passes : now ≤ later) :
    settings.InTransit handed taken queue later := by
  refine { inTransit with waiting := ?_ }
  intro place message present
  obtain ⟨stamp, early, isMessage⟩ := inTransit.waiting place message present
  exact ⟨stamp, UInt64.le_trans early passes, isMessage⟩

theorem take (inTransit : settings.InTransit handed taken (message :: queue) now) :
    settings.InTransit handed (taken ++ [⟨message, now⟩]) queue now := by
  refine ⟨?_, ?_, ?_⟩
  · rw [inTransit.handed_eq]
    simp
  · intro number pickup present
    rcases getElem?_append_singleton_cases present with earlier | ⟨rfl, rfl⟩
    · exact inTransit.timely number pickup earlier
    · exact inTransit.waiting 0 message rfl
  · intro place waiting present
    rw [List.length_append, List.length_singleton, Nat.add_assoc, Nat.add_comm 1]
    exact inTransit.waiting (place + 1) waiting present

theorem send
    (inTransit : settings.InTransit handed taken queue now)
    (timely : settings.IsTimely now handed.length message) :
    settings.InTransit (handed ++ [Handover.accepted message]) taken (queue ++ [message]) now := by
  refine { inTransit with handed_eq := ?_, waiting := ?_ }
  · rw [inTransit.handed_eq]
    simp
  · intro place waiting present
    rcases getElem?_append_singleton_cases present with earlier | ⟨rfl, rfl⟩
    · exact inTransit.waiting place waiting earlier
    · rwa [inTransit.handed_eq, List.length_map, List.length_append, List.length_map] at timely

end PingSettings.InTransit

/-! ## Paths -/

namespace LoopbackPath

/-- The message that the receive thread has taken and not handled yet. -/
def held (path : LoopbackPath Sink) : List Pickup :=
  match path.point with
  | .holding message receivedAt => [⟨message, receivedAt⟩]
  | .receiving | .idle | .finished | .crashed _ => []

/-- The messages of a ledger are on their way through a path or have arrived. -/
structure Carries
    (path : LoopbackPath Listener)
    (settings : PingSettings)
    (ledger : Ledger)
    (pickups : List Pickup)
    (now : UInt64) :
    Prop where
  heard : path.sink.roundTrip.Heard settings ledger.raised ledger.counted pickups
  inTransit : settings.InTransit ledger.handed (pickups ++ path.held) path.queue now
  stamp : ledger.stamp ≤ now
  inStream : path.inStream = !pickups.isEmpty
  counted : ledger.handed.length ≤ ledger.counted
  raised : ledger.counted ≤ ledger.raised
  within : ledger.raised ≤ settings.messageCount

variable {path : LoopbackPath Listener} {settings : PingSettings} {ledger : Ledger}
  {pickups : List Pickup} {now : UInt64}

/-! ## The receive thread -/

/-- A measurement handles the end of a stream without a fault, and it changes nothing. -/
theorem deliver_ofEnd (listener : Listener) (inStream : Bool) :
    exists after, Reception.deliver Listener.deliver (Reception.ofEnd inStream none) listener =
      (none, after) ∧ after.roundTrip = listener.roundTrip := by
  cases inStream with
  | false => exact ⟨listener, rfl, rfl⟩
  | true => exact ⟨_, rfl, rfl⟩

/-- The measurement hears the next message, which begins the stream if it is the first. -/
theorem deliver_ofMessage
    {listener : Listener}
    {raised counted : Nat}
    (heard : listener.roundTrip.Heard settings raised counted pickups)
    (positive : 0 < settings.geometry.bucketWidth)
    (room : raised < 2 ^ 63)
    (counted_le : counted ≤ raised)
    (unconfirmed : pickups.length < counted)
    {pickup : Pickup}
    (timely : settings.IsTimely pickup.receivedAt pickups.length pickup.message) :
    exists after,
      Reception.deliver Listener.deliver
          (Reception.ofMessage (!pickups.isEmpty) none pickup.message pickup.receivedAt)
          listener = (none, after) ∧
        after.roundTrip.Heard settings raised counted (pickups ++ [pickup]) := by
  have hears (listener : Listener)
      (heard : listener.roundTrip.Heard settings raised counted pickups) :
      exists after,
        Reception.deliver Listener.deliver
            [.data pickup.message pickup.receivedAt none false] listener = (none, after) ∧
          after.roundTrip.Heard settings raised counted (pickups ++ [pickup]) := by
    obtain ⟨faultless, hears⟩ := heard.hear positive room counted_le unconfirmed timely none
    refine ⟨(listener.deliver (.data pickup.message pickup.receivedAt none false)).2, ?_, hears⟩
    have handled : (listener.deliver (.data pickup.message pickup.receivedAt none false)).1 =
        none := faultless
    rw [Reception.deliver]
    generalize listener.deliver _ = delivered at handled
    obtain ⟨fault, after⟩ := delivered
    obtain rfl : fault = none := handled
    rfl
  -- Only the first message is handed over behind a beginning of the stream.
  cases pickups with
  | cons => exact hears listener heard
  | nil =>
      have same := heard.beginOfStream none
      obtain ⟨after, delivered, further⟩ :=
        hears (listener.deliver (.beginOfStream none)).2 (by
          rw [Listener.roundTrip_deliver, same]
          exact heard)
      exact ⟨after, delivered, further⟩

namespace Carries

/-- A new path carries nothing. -/
theorem start
    {histogram : Histogram}
    (created : Histogram.create settings.geometry = .ok histogram)
    (reporter : Reporter)
    (now : UInt64) :
    (LoopbackPath.start (⟨RoundTrip.start histogram, reporter⟩ : Listener)).Carries settings
      Ledger.blank [] now where
  heard := .start created
  inTransit := .nothing
  stamp := UInt64.zero_le
  inStream := rfl
  counted := Nat.le_refl _
  raised := Nat.le_refl _
  within := Nat.zero_le _

/-- What has arrived was handed over. -/
theorem length_pickups_le (carries : path.Carries settings ledger pickups now) :
    pickups.length ≤ ledger.handed.length := by
  rw [carries.inTransit.handed_eq, List.length_map, List.length_append, List.length_map,
    List.length_append, Nat.add_assoc]
  exact Nat.le_add_right _ _

theorem wait
    (carries : path.Carries settings ledger pickups now)
    {later : UInt64}
    (passes : now ≤ later) :
    path.Carries settings ledger pickups later :=
  { carries with
    inTransit := carries.inTransit.wait passes
    stamp := UInt64.le_trans carries.stamp passes }

/-- It does not matter where a receive thread stands that holds nothing. -/
theorem stand
    (carries : path.Carries settings ledger pickups now)
    (nothing : path.held = [])
    {point : Point}
    (still : ({ path with point := point } : LoopbackPath Listener).held = []) :
    ({ path with point := point } : LoopbackPath Listener).Carries settings ledger pickups
      now := by
  have inTransit := carries.inTransit
  rw [nothing] at inTransit
  exact { carries with inTransit := still.symm ▸ inTransit }

/-- The receive thread takes the first message of the queue. -/
theorem take
    (carries : path.Carries settings ledger pickups now)
    (receiving : path.point = .receiving)
    {message : Payload}
    {rest : List Payload}
    (queue : path.queue = message :: rest) :
    ({ path with queue := rest, point := .holding message now } :
      LoopbackPath Listener).Carries settings ledger pickups now := by
  have inTransit := carries.inTransit
  rw [held, receiving, List.append_nil, queue] at inTransit
  exact { carries with inTransit := inTransit.take }

/-- The receive thread hands the message that it holds to the measurement. -/
theorem handle
    (carries : path.Carries settings ledger pickups now)
    (positive : 0 < settings.geometry.bucketWidth)
    (room : settings.messageCount < 2 ^ 63)
    {message : Payload}
    {receivedAt : UInt64}
    (holding : path.point = .holding message receivedAt) :
    exists sink : Listener,
      path.step Listener.deliver now =
          { path with inStream := true, sink := sink, point := .receiving } ∧
        ({ path with inStream := true, sink := sink, point := .receiving } :
          LoopbackPath Listener).Carries settings ledger (pickups ++ [⟨message, receivedAt⟩])
          now := by
  have inTransit := carries.inTransit
  rw [held, holding] at inTransit
  -- A message is counted before it is handed over, so one in the hands of the receive thread
  -- is unconfirmed.
  have unconfirmed : pickups.length < ledger.counted := by
    have least := carries.counted
    rw [inTransit.handed_eq] at least
    simp only [List.length_map, List.length_append, List.length_singleton] at least
    omega
  obtain ⟨sink, delivered, heard⟩ := deliver_ofMessage carries.heard positive
    (Nat.lt_of_le_of_lt carries.within room) carries.raised unconfirmed
    (inTransit.timely pickups.length ⟨message, receivedAt⟩ (by simp))
  refine ⟨sink, ?_,
    { carries with
      heard := heard
      inTransit := ?_
      inStream := ?_ }⟩
  · rw [step, holding]
    dsimp only
    rw [LoopbackPath.handle, carries.inStream, delivered]
  · rw [held, List.append_nil]
    exact inTransit
  · simp

/-- The receive thread ends behind the last message. -/
theorem finish
    (carries : path.Carries settings ledger pickups now)
    (receiving : path.point = .receiving)
    (queue : path.queue = [])
    (closed : path.senderOpen = false) :
    exists sink : Listener,
      path.step Listener.deliver now = { path with sink := sink, point := .finished } ∧
        ({ path with sink := sink, point := .finished } : LoopbackPath Listener).Carries settings
          ledger pickups now := by
  have inTransit := carries.inTransit
  rw [held, receiving] at inTransit
  obtain ⟨sink, delivered, same⟩ := deliver_ofEnd path.sink path.inStream
  refine ⟨sink, ?_,
    { carries with
      heard := ?_
      inTransit := inTransit }⟩
  · have last : path.step Listener.deliver now =
        path.handle Listener.deliver (Reception.ofEnd path.inStream none) .finished := by
      rw [step, receiving]
      dsimp only
      rw [queue, closed, if_neg Bool.false_ne_true]
    rw [last, LoopbackPath.handle, delivered]
  · rw [same]
    exact carries.heard

end Carries
end LoopbackPath
end LatencyMeter
