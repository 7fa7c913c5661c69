import LatencyMeter.Proofs.Loopback.Attendance

/-!
# What a host does for a measurement on a loopback path

A host serves a measurement if its path carries the messages of the measurement and its
receive thread is where the course of the measurement lets it be. It keeps serving it
whatever the receive thread does, and a request that the measurement may make has to wait
only for a receive thread that was asked to stop. A step of the receive thread loses nothing.
-/

namespace LatencyMeter

/-- A host whose clock does not go back and whose report refuses nothing. -/
structure Host.Cooperates (host : Host) : Prop where
  clock : forall earlier later, earlier ≤ later -> host.clock earlier ≤ host.clock later
  report : forall write, host.report.refusal write = none

/-- A host serves a measurement whose path is not open yet, or carries its messages. -/
inductive Host.Serves
    (host : Host)
    (settings : PingSettings)
    (course : Course)
    (pickups : List Pickup) :
    Prop
  | unopened
      (receiver : host.receiver = none)
      (nothing : course = Course.blank)
      (noPickups : pickups = [])
  | opened (path : LoopbackPath Listener)
      (receiver : host.receiver = some (.loopback path))
      (isOpen : course.opened = true)
      (carries : path.Carries settings course.ledger pickups (host.clock host.reads))
      (attended : path.Attended course)

namespace Host

/-- Whether the receive thread has waited in vain and has not looked yet whether it is to
stop. -/
def waitedInVain (host : Host) : Bool :=
  match host.receiver with
  | some (.loopback path) => path.waitedInVain
  | _ => false

/-- The message that the receive thread holds. -/
def held (host : Host) : List Pickup :=
  match host.receiver with
  | some (.loopback path) => path.held
  | _ => []

/-- The messages that wait for the receive thread. -/
def queue (host : Host) : List Payload :=
  match host.receiver with
  | some (.loopback path) => path.queue
  | _ => []

/-- The messages in the queue of a receive thread that was asked to stop and does not look at
the queue again. -/
def lost (host : Host) : List Payload :=
  match host.receiver with
  | some (.loopback path) => path.lost
  | _ => []

/-- How many steps are at most left to the receive thread once it was asked to stop. -/
def actsToEnd (host : Host) : Nat :=
  match host.receiver with
  | some (.loopback path) => path.actsToEnd
  | _ => 0

variable {host : Host} {path : LoopbackPath Listener} {settings : PingSettings}
  {course : Course} {pickups : List Pickup}

/-- Without a receive thread nothing happens. -/
theorem receive_none (receiver : host.receiver = none) : host.receive = host := by
  unfold receive
  rw [receiver]

/-- The receive thread of a loopback path takes one step. -/
theorem receive_loopback (receiver : host.receiver = some (.loopback path)) :
    host.receive.receiver =
        some (.loopback (path.step Listener.deliver (host.clock host.reads)).emptied) ∧
      host.receive.clock = host.clock ∧
      host.receive.report = host.report ∧
      host.reads ≤ host.receive.reads := by
  have reads : host.reads ≤ if path.takesReading then host.reads + 1 else host.reads := by
    split
    · exact Nat.le_succ _
    · exact Nat.le_refl _
  unfold receive
  rw [receiver]
  exact ⟨rfl, rfl, rfl, reads⟩

/-- What is lost is all that is in the queue, or nothing. -/
theorem lost_eq_nil_or_queue (host : Host) : host.lost = [] ∨ host.lost = host.queue := by
  unfold lost queue
  split
  · next path _ => exact path.lost_eq_nil_or_queue
  · exact .inl rfl

/-- A step of the receive thread loses no message and brings no lost one back. -/
theorem lost_receive (host : Host) : host.receive.lost = host.lost := by
  cases receiver : host.receiver with
  | none => rw [receive_none receiver]
  | some thread =>
      cases thread with
      | loopback path =>
          obtain ⟨received, _⟩ := receive_loopback receiver
          unfold lost
          rw [received, receiver]
          exact path.lost_step Listener.deliver _
      | datagrams | reflecting =>
          unfold lost receive
          rw [receiver]
          rfl

/-- A host goes on to serve a measurement whatever its receive thread does next, and the
receive thread comes closer to its end once it was asked to stop. -/
theorem Serves.receive
    (positive : 0 < settings.geometry.bucketWidth)
    (room : settings.messageCount < 2 ^ 63)
    (serves : host.Serves settings course pickups)
    (cooperates : host.Cooperates) :
    host.receive.Cooperates ∧
      host.receive.Serves settings course (pickups ++ host.held) ∧
      (course.stopped = true -> host.receive.actsToEnd ≤ host.actsToEnd - 1) := by
  cases serves with
  | unopened receiver nothing noPickups =>
      have none : host.held = [] := by rw [held, receiver]
      rw [receive_none receiver, none, List.append_nil]
      refine ⟨cooperates, .unopened receiver nothing noPickups, ?_⟩
      rw [nothing]
      exact nofun
  | opened path receiver isOpen carries attended =>
      have acts := LoopbackPath.acts_step carries attended positive room
      obtain ⟨received, clock, report, reads⟩ := receive_loopback receiver
      have passes := cooperates.clock _ _ reads
      have holds : host.held = path.held := by rw [held, receiver]
      have before : host.actsToEnd = path.actsToEnd := by rw [actsToEnd, receiver]
      have behind : host.receive.actsToEnd =
          (path.step Listener.deliver (host.clock host.reads)).actsToEnd := by
        rw [actsToEnd, received]
        rfl
      rw [holds, before, behind]
      refine ⟨⟨?_, ?_⟩, .opened _ received isOpen ?_ acts.attended.emptied, acts.closer⟩
      · rw [clock]
        exact cooperates.clock
      · rw [report]
        exact cooperates.report
      · rw [clock]
        exact acts.carries.emptied.wait passes

/-- A measurement that may ask is answered, or it has to wait until the receive thread, which
was asked to stop, has ended. -/
theorem Serves.answers_or_waits
    (serves : host.Serves settings course pickups)
    {request : Session.Request}
    (asks : settings.MayAsk course request) :
    (exists given later, host.answer? request = some (given, later)) ∨
      course.stopped = true ∧ 0 < host.actsToEnd := by
  cases request with
  | reflect | openProbe | notification => exact asks.elim
  | join =>
      have stopped : course.stopped = true := asks
      cases serves with
      | unopened receiver nothing noPickups => rw [nothing] at stopped; contradiction
      | opened path receiver isOpen carries attended =>
          rw [actsToEnd, answer?, receiver]
          cases point : path.point with
          | crashed cause => exact absurd point (attended.not_crashed cause)
          | finished =>
              refine .inl ⟨none, host, ?_⟩
              simp [Receiver.joined?, LoopbackPath.ended, LoopbackPath.joined, point]
          | receiving | holding | idle =>
              refine .inr ⟨stopped, ?_⟩
              simp [LoopbackPath.actsToEnd, point]
  | _ => exact .inl ⟨_, _, rfl⟩

end Host
end LatencyMeter
