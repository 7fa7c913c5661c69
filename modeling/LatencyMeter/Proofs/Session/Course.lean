import LatencyMeter.Session.Ping
import LatencyMeter.Proofs.Pacer.Stint

/-!
# The course of a measurement

The course of a measurement is the record of what its main thread has asked: the ledger of
its messages, how many of them had been handed over when samples were forgotten, how far the
path has come, and what was answered in the end. The protocol of a measurement says by this
record when a request may be made. It says nothing of the answers, which are those of any
transport, host and receive thread, but that the count of sent messages is the one of the
ledger.
-/

namespace LatencyMeter

/-- What the requests of a measurement have done. -/
structure Course where
  ledger : Ledger
  /-- Whether the path has been opened. -/
  opened : Bool
  /-- How many messages had been handed over whenever all samples were forgotten. -/
  resets : List Nat
  /-- Whether the receiving side was told that nothing more is sent. -/
  closed : Bool
  /-- Whether the receive thread was asked to stop. -/
  stopped : Bool
  /-- Whether the receive thread has ended. -/
  joined : Bool
  /-- Whether anything but a message was refused. -/
  trouble : Bool
  counts : Option ReceiveCounts
  histogram : Option Histogram

namespace Course

/-- Nothing was asked. -/
def blank : Course := ⟨Ledger.blank, false, [], false, false, false, false, none, none⟩

/-- The course after something was refused. -/
def troubled (course : Course) : Course := { course with trouble := true }

/-- The course after one more request was answered. -/
def after (course : Course) : (request : Session.Request) -> request.Answer -> Course
  | .sending request, answer => { course with ledger := course.ledger.after request answer }
  | .print _, none | .bindThread _, true => course
  | .print _, some _ | .bindThread _, false => course.troubled
  | .listen _ _ _, none => { course with opened := true }
  | .listen _ _ _, some _ => course.troubled
  | .resetSamples, _ => { course with resets := course.resets ++ [course.ledger.handed.length] }
  | .close, none => { course with closed := true }
  | .close, some _ => { course.troubled with closed := true }
  | .stop, _ => { course with stopped := true }
  | .join, none => { course with joined := true }
  | .join, some _ => { course.troubled with joined := true }
  | .counts, counts => { course with counts := some counts }
  | .histogram, histogram => { course with histogram := some histogram }
  | .reflect _ _ _, _ | .openProbe _, _ | .notification, _ => course

/-- A request of a sending loop leaves its trace in the ledger. -/
theorem after_sending
    (course : Course)
    (request : Sending.Request)
    (answer : request.Answer) :
    course.after (.sending request) answer =
      { course with ledger := course.ledger.after request answer } := rfl

/-- The transport has accepted all messages so far. -/
def Willing (course : Course) : Prop :=
  exists messages : List Payload, course.ledger.handed = messages.map Handover.accepted

/-- The transport has refused the last message and none before it. -/
def RefusedBy (course : Course) (fault : TransportFault) : Prop :=
  exists (messages : List Payload) (refused : Payload),
    course.ledger.handed = messages.map Handover.accepted ++ [⟨refused, some fault⟩]

/-- A transport that refused a message did not accept them all. -/
theorem RefusedBy.not_willing
    {course : Course}
    {fault : TransportFault}
    (refused : course.RefusedBy fault) :
    ¬ course.Willing := by
  rintro ⟨messages, accepted⟩
  obtain ⟨_, message, handed⟩ := refused
  have member : Handover.mk message (some fault) ∈ messages.map Handover.accepted := by
    rw [← accepted, handed]
    simp
  obtain ⟨_, _, same⟩ := List.mem_map.mp member
  exact absurd (congrArg Handover.fault same) (by simp [Handover.accepted])

/-- There is one fault with which the transport refused the last message. -/
theorem RefusedBy.unique
    {course : Course}
    {fault other : TransportFault}
    (refused : course.RefusedBy fault)
    (also : course.RefusedBy other) :
    fault = other := by
  obtain ⟨_, _, handed⟩ := refused
  obtain ⟨_, _, again⟩ := also
  have last := (List.append_inj' (handed.symm.trans again) rfl).2
  simpa using congrArg (fun handovers => handovers.map Handover.fault) last

/-- Only the count of sent messages is answered as the ledger says. -/
def MayAnswer (course : Course) : (request : Session.Request) -> request.Answer -> Prop
  | .sending request, answer => Stint.MayAnswer course.ledger request answer
  | _, _ => True

end Course

namespace PingSettings

/-- How many messages there are before the measured ones. -/
def warmupCount (settings : PingSettings) : Nat := settings.warmup.loops.toNat

/-- How many messages there are in all. -/
def messageCount (settings : PingSettings) : Nat :=
  settings.warmup.loops.toNat + settings.count.toNat

/-- A message is the one of a number: it has the length of all messages and a header with
that number, and is stamped if it is to be measured. -/
structure IsMessage
    (settings : PingSettings)
    (number : Nat)
    (stamp : UInt64)
    (message : Payload) :
    Prop where
  length : message.length = settings.length.toNat
  decoded : Header.decode message =
    .ok ⟨UInt64.ofNat number, if settings.warmupCount ≤ number then stamp else 0,
      Sending.flagsFor (settings.warmupCount ≤ number)⟩

/-- When a request of a sending loop may be made: a message is launched on an open path, as
long as none was refused and one is left, and measured after samples were forgotten once. -/
structure MayLaunch
    (settings : PingSettings)
    (course : Course)
    (request : Sending.Request) :
    Prop where
  stands : course.ledger.StandsBefore request
  left : request.launches = true ->
    course.opened = true ∧ course.closed = false ∧ course.Willing ∧
      course.ledger.handed.length < settings.messageCount ∧
      course.resets =
        if settings.warmupCount ≤ course.ledger.handed.length then [settings.warmupCount] else []
  described : forall message, request = .transmit message ->
    settings.IsMessage course.ledger.handed.length course.ledger.stamp message

/-- When a request may be made. -/
def MayAsk (settings : PingSettings) (course : Course) : Session.Request -> Prop
  | .sending request => settings.MayLaunch course request
  | .print _ => True
  | .bindThread core => settings.senderCpu = some core
  | .listen path cpu histogram =>
      course.opened = false ∧ course.ledger.handed = [] ∧ path = settings.path ∧
        cpu = settings.receiverCpu ∧ Histogram.create settings.geometry = .ok histogram
  | .resetSamples =>
      course.opened = true ∧ course.resets = [] ∧ course.Willing ∧
        course.ledger.handed.length = settings.warmupCount
  | .close => course.opened = true
  | .stop => course.closed = true ∨ exists fault, course.RefusedBy fault
  | .join => course.stopped = true
  | .counts | .histogram => course.joined = true
  | .reflect _ _ _ | .openProbe _ | .notification => False

/-- The rules of a measurement. -/
abbrev protocol (settings : PingSettings) : Protocol Session.Request.Answer Course where
  after := Course.after
  mayAsk := settings.MayAsk
  mayAnswer := Course.MayAnswer
  mayStop course := course.opened = true ∧ course.Willing

variable {settings : PingSettings} {course : Course}

/-! ## Sessions -/

section Sessions

variable {fails : Course -> Failure -> Prop}

/-- A request of a session that may be made is followed by its answer. -/
theorem follows_ask
    {request : Session.Request}
    {returns : Course -> request.Answer -> Prop}
    (asks : settings.MayAsk course request)
    (answered : forall answer, returns (course.after request answer) answer) :
    settings.protocol.Follows (Protocol.Outcome returns fails) course
      (Session.ask request).run :=
  ⟨asks, fun answer _ => answered answer⟩

/-- Between messages a request of a sending loop that launches none changes nothing. -/
theorem follows_idle
    (settled : course.ledger.Settled)
    {request : Sending.Request}
    (idle : request.launches = false) :
    settings.protocol.Follows (Protocol.Outcome (fun later _ => later = course) fails) course
      (Session.ofSending (Program.request request)).run := by
  refine ⟨⟨settled.standsBefore idle, fun launches => absurd launches (by simp [idle]), ?_⟩, ?_⟩
  · rintro message rfl
    contradiction
  · intro answer _
    change course.after (.sending request) answer = course
    rw [Course.after_sending, course.ledger.after_of_idle idle]

/-- Writing diagnostics between messages changes nothing. -/
theorem follows_notes
    (settled : course.ledger.Settled)
    (entries : List Log.Entry) :
    settings.protocol.Follows (Protocol.Outcome (fun later _ => later = course) fails) course
      (Session.notes entries).run := by
  induction entries with
  | nil => rfl
  | cons entry rest hypothesis =>
      refine Protocol.Follows.bindExcept _ (follows_idle settled rfl) ?_
      rintro later _ rfl
      exact hypothesis

/-- A part of the report is written or refused. -/
theorem follows_print
    (refused : forall failure, fails course.troubled failure)
    (text : String) :
    settings.protocol.Follows (Protocol.Outcome (fun later _ => later = course) fails) course
      (Session.print text).run := by
  refine ⟨trivial, fun reason _ => ?_⟩
  cases reason with
  | none => rfl
  | some reason => exact refused _

/-- A session seen from outside one more stage ends where it ended. -/
theorem follows_within
    {session : Session α}
    {stage : Stage}
    {returns : Course -> α -> Prop}
    (inside : settings.protocol.Follows
      (Protocol.Outcome returns fun later failure => fails later (failure.within stage)) course
      session.run) :
    settings.protocol.Follows (Protocol.Outcome returns fails) course
      (Session.within stage session).run := by
  refine inside.bind ?_
  rintro later (failure | value) holds <;> exact holds

end Sessions

/-! ## Plans -/

end PingSettings

namespace Course

/-- Some messages were sent and accepted, and nothing else was refused; the path is open. -/
structure Ready (course : Course) (resets : List Nat) (sent : Nat) : Prop where
  opened : course.opened = true
  closed : course.closed = false
  trouble : course.trouble = false
  resets_eq : course.resets = resets
  settled : course.ledger.Settled
  handed : exists messages : List Payload,
    course.ledger.handed = messages.map Handover.accepted ∧ messages.length = sent

/-- A message was refused, and the failure says why. -/
structure Failed (course : Course) (failure : Failure) : Prop where
  opened : course.opened = true
  trouble : course.trouble = false
  settled : course.ledger.Settled
  refused : exists fault, course.RefusedBy fault ∧ failure.cause = .transport fault

end Course

namespace PingSettings

variable {settings : PingSettings} {course : Course}

/-- A plan has its place among all messages: they are stamped as the plan says, and samples
were forgotten before them if and only if they are measured. -/
def Allots (settings : PingSettings) (plan : Plan) (resets : List Nat) (sent : Nat) : Prop :=
  forall number, sent ≤ number -> number < sent + plan.count.toNat ->
    number < settings.messageCount ∧
      plan.timestamp = decide (settings.warmupCount ≤ number) ∧
      resets = if settings.warmupCount ≤ number then [settings.warmupCount] else []

/-- Whatever a run of an allotted plan may ask, the measurement may ask. -/
theorem mayLaunch_of_mayAsk
    {resets : List Nat}
    {sent : Nat}
    (ready : course.Ready resets sent)
    {plan : Plan}
    (allotted : settings.Allots plan resets sent)
    {ledger : Ledger}
    {request : Sending.Request}
    (asks : Stint.MayAsk ⟨course.ledger.handed, plan, settings.length.toNat⟩ ledger request) :
    settings.MayLaunch { course with ledger := ledger } request := by
  obtain ⟨messages, handed, count⟩ := ready.handed
  have place (launches : request.launches = true) :
      ledger.handed.length < settings.messageCount ∧
        plan.timestamp = decide (settings.warmupCount ≤ ledger.handed.length) ∧
        resets =
          if settings.warmupCount ≤ ledger.handed.length then [settings.warmupCount] else [] := by
    obtain ⟨more, grown, short⟩ := asks.left launches
    have number : ledger.handed.length = sent + more.length := by
      rw [grown, handed, List.length_append, List.length_map, List.length_map, count]
    rw [number]
    exact allotted _ (Nat.le_add_right _ _) (Nat.add_lt_add_left short sent)
  refine ⟨asks.stands, fun launches => ?_, ?_⟩
  · obtain ⟨within, _, samples⟩ := place launches
    obtain ⟨more, grown, _⟩ := asks.left launches
    refine ⟨ready.opened, ready.closed, ⟨messages ++ more, ?_⟩, within,
      ready.resets_eq.trans samples⟩
    rw [List.map_append, ← handed]
    exact grown
  · rintro message rfl
    obtain ⟨_, stamped, _⟩ := place rfl
    have described := asks.described message rfl
    refine ⟨described.length, ?_⟩
    rw [described.decoded, Ledger.header]
    dsimp only
    rw [stamped]
    simp only [decide_eq_true_eq]

/-- A run of an allotted plan follows the protocol of the measurement. -/
theorem follows_runPlan
    {resets : List Nat}
    {sent : Nat}
    (ready : course.Ready resets sent)
    (steps : Nat)
    {plan : Plan}
    (allotted : settings.Allots plan resets sent)
    {pacer : Pacer}
    (length : pacer.buffer.bytes.length = settings.length.toNat) :
    settings.protocol.Follows
      (Protocol.Outcome
        (fun later result =>
          later.Ready resets (sent + plan.count.toNat) ∧ result.1 = plan.count ∧
            result.2.buffer.bytes.length = settings.length.toNat)
        Course.Failed)
      course (settings.runPlan steps plan pacer).run := by
  obtain ⟨messages, handed, count⟩ := ready.handed
  let stint : Stint := ⟨course.ledger.handed, plan, settings.length.toNat⟩
  have follows := Pacer.follows_run settings.path.linkName steps plan pacer ready.settled
  rw [length] at follows
  -- The ledger of the run becomes the one of the course; nothing else changes meanwhile.
  have translated := follows.translate settings.protocol
    (fun request => Program.request (Session.Request.sending request))
    (fun ledger => { course with ledger := ledger })
    (fun ledger request asks =>
      ⟨mayLaunch_of_mayAsk ready allotted asks, fun answer credible => ⟨credible, rfl⟩⟩)
    (by
      rintro ledger ⟨more, sent⟩
      refine ⟨ready.opened, messages ++ more, ?_⟩
      rw [List.map_append, ← handed]
      exact sent.handed)
  refine Protocol.Follows.bindExcept
    (fun later result => exists ledger, later = { course with ledger := ledger } ∧
      stint.Concluded ledger result.1 ∧
      result.2.buffer.bytes.length = settings.length.toNat)
    (translated.bind ?_) ?_
  · rintro later result ⟨ledger, rfl, concluded, _, kept⟩
    exact ⟨ledger, rfl, concluded, kept⟩
  · rintro later ⟨result, left⟩ ⟨ledger, rfl, concluded, kept⟩
    cases result with
    | ok total =>
        obtain ⟨rfl, more, sends, all⟩ := concluded
        refine ⟨⟨ready.opened, ready.closed, ready.trouble, ready.resets_eq, sends.settled,
          messages ++ more, ?_, ?_⟩, rfl, kept⟩
        · rw [List.map_append, ← handed]
          exact sends.handed
        · rw [List.length_append, count, all]
    | error failure =>
        obtain ⟨more, fault, stage, refused, rfl⟩ := concluded
        obtain ⟨message, last⟩ := refused.handed
        refine ⟨ready.opened, ready.trouble, refused.settled, fault,
          ⟨messages ++ more, message, ?_⟩, rfl⟩
        rw [List.map_append, ← handed]
        exact last

end PingSettings
end LatencyMeter
