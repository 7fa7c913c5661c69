import LatencyMeter.Proofs.Session.Course

/-!
# The phases of a measurement

Priming, warmup and measured messages are sent by three runs of one pacer. Together they
number their messages from zero on, samples are forgotten between the last message of the
warmup and the first measured one, and the first message that the transport refuses is the
last one.
-/

namespace LatencyMeter

/-- Settings with which a measurement can begin. -/
structure PingSettings.Usable (settings : PingSettings) : Prop where
  length : Header.size ≤ settings.length.toNat
  count : 0 < settings.count.toNat
  histogram : exists histogram, Histogram.create settings.geometry = .ok histogram

/-- Where two computations in a row succeed, both do. -/
theorem exists_of_bind_eq_ok
    {first : Except ε α}
    {next : α -> Except ε β}
    {result : β}
    (succeeds : (first >>= next) = .ok result) :
    exists value, first = .ok value ∧ next value = .ok result := by
  cases first with
  | error fault => contradiction
  | ok value => exact ⟨value, rfl, succeeds⟩

/-- A number that passed its check is positive. -/
theorem Check.pos_of_positive
    {name : String}
    {value : UInt64}
    (passed : Check.positive name value = .ok ()) :
    value ≠ 0 := by
  rintro rfl
  contradiction

/-- A measurement can begin with all settings that options are accepted for. -/
theorem PingOptions.usable_of_accepted
    {options : PingOptions}
    {settings : PingSettings}
    (accepted : options.settings = .ok settings) :
    settings.Usable := by
  obtain ⟨_, checked, same⟩ := exists_of_bind_eq_ok accepted
  obtain rfl := Except.ok.inj same
  obtain ⟨_, loaded, _⟩ := exists_of_bind_eq_ok checked
  obtain ⟨_, _, loaded⟩ := exists_of_bind_eq_ok loaded
  obtain ⟨_, count, loaded⟩ := exists_of_bind_eq_ok loaded
  obtain ⟨_, length, loaded⟩ := exists_of_bind_eq_ok loaded
  obtain ⟨_, geometry, _⟩ := exists_of_bind_eq_ok loaded
  refine ⟨?_, ?_, ?_⟩
  · unfold Check.messageLength at length
    split at length
    · contradiction
    · next fits => exact Nat.not_lt.mp fits
  · have nonzero := Check.pos_of_positive count
    exact Nat.pos_of_ne_zero fun zero => nonzero (UInt64.toNat_inj.mp zero)
  · obtain ⟨_, buckets, geometry⟩ := exists_of_bind_eq_ok geometry
    obtain ⟨_, width, geometry⟩ := exists_of_bind_eq_ok geometry
    have few : ¬ Histogram.maxBuckets < options.geometry.bucketCount := by
      intro many
      rw [if_pos many] at geometry
      contradiction
    have allocatable : ¬ Histogram.unallocatable ≤ options.geometry.bucketCount := fun many =>
      absurd (UInt64.le_trans many (UInt64.not_lt.mp few)) (by decide)
    refine ⟨Histogram.fresh options.geometry.bucketCount.toNat options.geometry.bucketWidth, ?_⟩
    unfold Histogram.create
    rw [if_neg, if_neg allocatable]
    rintro (zero | zero)
    · exact Check.pos_of_positive buckets zero
    · exact Check.pos_of_positive width zero

namespace Course

/-- All messages were sent and accepted, and the path was closed. -/
structure Delivered (settings : PingSettings) (course : Course) : Prop where
  opened : course.opened = true
  closed : course.closed = true
  settled : course.ledger.Settled
  handed : exists messages : List Payload,
    course.ledger.handed = messages.map Handover.accepted ∧
      messages.length = settings.messageCount

/-- A measurement yields what it was told in the end, after all messages were delivered. -/
structure Returned (settings : PingSettings) (course : Course) (result : PingResult) : Prop where
  delivered : course.Delivered settings
  trouble : course.trouble = false
  joined : course.joined = true
  counts : course.counts = some result.receive
  histogram : course.histogram = some result.histogram
  sends : result.send.sends = settings.count
  heard : result.receive.received ≠ 0

/-- Why a measurement fails. -/
inductive Broken (settings : PingSettings) (course : Course) (failure : Failure) : Prop
  /-- Something was refused before the path was open. -/
  | unopened
      (opened : course.opened = false)
      (handed : course.ledger.handed = [])
      (trouble : course.trouble = true)
  /-- A message was refused. -/
  | refused (fault : TransportFault)
      (refused : course.RefusedBy fault)
      (cause : failure.cause = .transport fault)
  /-- Something was refused after all messages were delivered. -/
  | troubled
      (delivered : course.Delivered settings)
      (trouble : course.trouble = true)
  /-- No message was received. -/
  | deaf (counts : ReceiveCounts)
      (delivered : course.Delivered settings)
      (told : course.counts = some counts)
      (none : counts.received = 0)
      (cause : failure = Failure.ofCause .nothingReceived)

end Course

namespace PingSettings

open Protocol

variable {settings : PingSettings} {course : Course}

/-- A plan without stamps has its place where the warmup has room for it. -/
theorem allots_unstamped
    {plan : Plan}
    {sent : Nat}
    (unstamped : plan.timestamp = false)
    (room : sent + plan.count.toNat ≤ settings.warmupCount) :
    settings.Allots plan [] sent := by
  intro number _ last
  have early : ¬ settings.warmupCount ≤ number := by omega
  refine ⟨?_, ?_, ?_⟩
  · exact Nat.lt_of_lt_of_le (Nat.lt_of_lt_of_le last room) (Nat.le_add_right _ _)
  · simp [unstamped, early]
  · rw [if_neg early]

/-- The measured messages have their place behind the warmup. -/
theorem allots_measured :
    settings.Allots settings.measuredPlan [settings.warmupCount] settings.warmupCount := by
  intro number first last
  refine ⟨last, ?_, ?_⟩
  · simp [measuredPlan, first]
  · rw [if_pos first]

/-- Priming sends the first message of the warmup, if there is one. -/
theorem follows_prime
    (ready : course.Ready [] 0)
    (steps : Nat)
    {pacer : Pacer}
    (length : pacer.buffer.bytes.length = settings.length.toNat) :
    settings.protocol.Follows
      (Outcome
        (fun later left =>
          later.Ready [] (min 1 settings.warmupCount) ∧
            left.buffer.bytes.length = settings.length.toNat)
        Course.Failed)
      course (settings.prime steps pacer).run := by
  unfold prime
  split
  · next primes =>
    have positive : 1 ≤ settings.warmupCount := UInt64.lt_iff_toNat_lt.mp primes
    have room : 0 + primingPlan.count.toNat ≤ settings.warmupCount := positive
    -- The phase is announced, and a run of one message follows.
    refine Follows.bindIdle (follows_idle ready.settled rfl) fun _ => ?_
    refine Follows.bindExcept _
      (follows_runPlan ready steps (allots_unstamped rfl room) length) ?_
    rintro later ⟨count, left⟩ ⟨ready, _, kept⟩
    rw [Nat.min_eq_left positive]
    exact ⟨ready, kept⟩
  · next none =>
    have zero : settings.warmupCount = 0 := by
      rw [UInt64.lt_iff_toNat_lt] at none
      exact Nat.eq_zero_of_not_pos none
    rw [zero]
    exact ⟨ready, length⟩

/-- The rest of the warmup follows the priming message. -/
theorem follows_warmUp
    (ready : course.Ready [] (min 1 settings.warmupCount))
    (steps : Nat)
    {pacer : Pacer}
    (length : pacer.buffer.bytes.length = settings.length.toNat) :
    settings.protocol.Follows
      (Outcome
        (fun later left =>
          later.Ready [] settings.warmupCount ∧
            left.buffer.bytes.length = settings.length.toNat)
        Course.Failed)
      course (settings.warmUp steps pacer).run := by
  unfold warmUp
  split
  · next warms =>
    have several : 1 < settings.warmupCount := UInt64.lt_iff_toNat_lt.mp warms
    have whole : 1 + settings.warmupPlan.count.toNat = settings.warmupCount := by
      have less := UInt64.toNat_sub_of_le settings.warmup.loops 1 (UInt64.le_of_lt warms)
      change 1 + (settings.warmup.loops - 1).toNat = settings.warmupCount
      rw [less]
      exact Nat.add_sub_cancel' (Nat.le_of_lt several)
    rw [Nat.min_eq_left (Nat.le_of_lt several)] at ready
    refine Follows.bindIdle (follows_idle ready.settled rfl) fun _ => ?_
    refine Follows.bindExcept _
      (follows_runPlan ready steps (allots_unstamped rfl (Nat.le_of_eq whole)) length) ?_
    rintro later ⟨count, left⟩ ⟨ready, _, kept⟩
    rw [whole] at ready
    exact ⟨ready, kept⟩
  · next few =>
    -- Priming was all of the warmup, if there is one.
    have most : settings.warmupCount ≤ 1 := UInt64.le_iff_toNat_le.mp (UInt64.not_lt.mp few)
    rw [Nat.min_eq_right most] at ready
    exact ⟨ready, length⟩

/-- A new pacer writes messages of the length of the measurement. -/
theorem exists_pacer (usable : settings.Usable) :
    exists pacer,
      Pacer.create settings.pacing settings.length = .ok pacer ∧
        pacer.buffer.bytes.length = settings.length.toNat := by
  refine ⟨⟨settings.pacing, Buffer.zeroed settings.length.toNat usable.length, 0⟩, ?_, ?_⟩
  · unfold Pacer.create
    rw [dif_pos usable.length]
  · exact List.length_replicate

/-- The path is closed behind the last message, or the transport refuses to. -/
theorem follows_close
    {resets : List Nat}
    (ready : course.Ready resets settings.messageCount) :
    settings.protocol.Follows
      (Outcome
        (fun later _ => later.Delivered settings ∧ later.trouble = false)
        (fun later _ => later.Delivered settings ∧ later.trouble = true))
      course
      (Session.within .closing do Session.refuse (<- Session.ask .close)).run := by
  refine follows_within (Follows.bindExcept (fun later fault =>
    later.Delivered settings ∧ later.trouble = fault.isSome)
    (follows_ask (show settings.MayAsk course .close from ready.opened) ?_) ?_)
  · intro fault
    cases fault with
    | none => exact ⟨⟨ready.opened, rfl, ready.settled, ready.handed⟩, ready.trouble⟩
    | some fault => exact ⟨⟨ready.opened, rfl, ready.settled, ready.handed⟩, rfl⟩
  · rintro later fault holds
    cases fault <;> exact holds

/-- Where the sending side ends: all messages were sent and the path was closed, or a message
was refused, or only the path could not be closed. -/
theorem follows_sendAll
    (usable : settings.Usable)
    (ready : course.Ready [] 0)
    (steps : Nat) :
    settings.protocol.Follows
      (Outcome
        (fun later sent =>
          later.Delivered settings ∧ later.trouble = false ∧ sent.count = settings.count)
        (fun later failure =>
          later.Failed failure ∨ later.Delivered settings ∧ later.trouble = true))
      course (settings.sendAll steps).run := by
  obtain ⟨pacer, created, length⟩ := exists_pacer usable
  unfold sendAll
  refine Follows.bindIdle (follows_idle ready.settled rfl) fun _ => ?_
  rw [created]
  refine Follows.bindExcept (fun last value => last = course ∧ value = pacer)
    ⟨rfl, rfl⟩ ?_
  rintro later _ ⟨rfl, rfl⟩
  refine Follows.bindExcept _ ((follows_prime ready steps length).weakenFailure fun _ _ => .inl) ?_
  rintro later pacer ⟨ready, length⟩
  refine Follows.bindIdle (follows_idle ready.settled rfl) fun _ => ?_
  refine Follows.bindExcept _ ((follows_warmUp ready steps length).weakenFailure fun _ _ => .inl) ?_
  rintro later pacer ⟨ready, length⟩
  obtain ⟨messages, handed, count⟩ := ready.handed
  -- Behind the whole warmup and before the first measured message.
  have forgets : settings.MayAsk later .resetSamples := by
    refine ⟨ready.opened, ready.resets_eq, ⟨messages, handed⟩, ?_⟩
    rw [handed, List.length_map, count]
  refine Follows.bindExcept (fun last _ =>
    last.Ready [settings.warmupCount] settings.warmupCount) (follows_ask forgets ?_) ?_
  · intro _
    refine { ready with resets_eq := ?_ }
    change later.resets ++ [later.ledger.handed.length] = [settings.warmupCount]
    rw [ready.resets_eq, handed, List.length_map, count, List.nil_append]
  rintro later _ ready
  refine Follows.bindIdle (follows_idle ready.settled rfl) fun start => ?_
  refine Follows.bindExcept _
    ((follows_runPlan ready steps allots_measured length).weakenFailure fun _ _ => .inl) ?_
  rintro later ⟨count, pacer⟩ ⟨ready, rfl, length⟩
  refine Follows.bindIdle (follows_idle ready.settled rfl) fun finish => ?_
  extract_lets closes
  have closed : settings.protocol.Follows
      (Outcome
        (fun later sent =>
          later.Delivered settings ∧ later.trouble = false ∧ sent.count = settings.count)
        (fun later failure =>
          later.Failed failure ∨ later.Delivered settings ∧ later.trouble = true))
      later (closes ()).run := by
    refine Follows.bindExcept _ ((follows_close ready).weakenFailure fun _ _ => .inr) ?_
    rintro last _ ⟨delivered, fine⟩
    exact ⟨delivered, fine, rfl⟩
  split
  · exact Follows.bindIdle (follows_idle ready.settled rfl) fun _ => closed
  · exact closed

/-- What giving the receive thread up leaves as it was. -/
structure Abandoned (course later : Course) : Prop where
  ledger : later.ledger = course.ledger
  opened : later.opened = course.opened
  closed : later.closed = course.closed
  trouble : course.trouble = true -> later.trouble = true

/-- Giving the receive thread up changes nothing of what was sent. -/
theorem follows_abandon
    {fails : Course -> Failure -> Prop}
    (settled : course.ledger.Settled)
    (nothingLeft : course.closed = true ∨ exists fault, course.RefusedBy fault) :
    settings.protocol.Follows (Outcome (fun later _ => Abandoned course later) fails) course
      Session.abandonReceiver.run := by
  refine Follows.bindExcept (fun later _ => later = { course with stopped := true })
    (follows_ask nothingLeft fun _ => rfl) ?_
  rintro stopped _ rfl
  refine Follows.bindExcept (fun later _ => Abandoned course later)
    (follows_ask rfl ?_) ?_
  · intro fault
    cases fault with
    | none => exact ⟨rfl, rfl, rfl, id⟩
    | some fault => exact ⟨rfl, rfl, rfl, fun _ => rfl⟩
  · rintro later fault abandoned
    cases fault with
    | none => exact abandoned
    | some fault =>
        refine (follows_idle (abandoned.ledger ▸ settled) rfl).weakenReturn ?_
        rintro last _ rfl
        exact abandoned

/-- Beside the receive thread all messages are delivered, or the measurement is broken. -/
theorem follows_besideReceiver
    (usable : settings.Usable)
    (ready : course.Ready [] 0)
    (steps : Nat) :
    settings.protocol.Follows
      (Outcome
        (fun later sent =>
          later.Delivered settings ∧ later.trouble = false ∧ sent.count = settings.count)
        (Course.Broken settings))
      course (Session.besideReceiver (settings.sendAll steps)).run := by
  refine Follows.handle (follows_sendAll usable ready steps) ?_
  -- A message was refused, or all were delivered and only the path could not be closed.
  rintro later failure (failed | ⟨delivered, trouble⟩)
  · obtain ⟨fault, refused, cause⟩ := failed.refused
    refine Follows.bindExcept _ (follows_abandon failed.settled (.inr ⟨fault, refused⟩)) ?_
    rintro last _ abandoned
    refine .refused fault ?_ cause
    rwa [Course.RefusedBy, abandoned.ledger]
  · refine Follows.bindExcept _ (follows_abandon delivered.settled (.inl delivered.closed)) ?_
    rintro last _ abandoned
    refine .troubled ⟨?_, ?_, ?_, ?_⟩ (abandoned.trouble trouble)
    · rw [abandoned.opened, delivered.opened]
    · rw [abandoned.closed, delivered.closed]
    · rw [abandoned.ledger]
      exact delivered.settled
    · rw [abandoned.ledger]
      exact delivered.handed

/-- The receive thread ends, or joining it is what breaks the measurement. -/
theorem follows_stopReceiver
    (delivered : course.Delivered settings)
    (fine : course.trouble = false) :
    settings.protocol.Follows
      (Outcome
        (fun later _ =>
          later.Delivered settings ∧ later.trouble = false ∧ later.joined = true)
        (Course.Broken settings))
      course Session.stopReceiver.run := by
  refine follows_within (Follows.bindExcept
    (fun later _ => later = { course with stopped := true })
    (follows_ask (show settings.MayAsk course .stop from .inl delivered.closed) fun _ => rfl) ?_)
  rintro stopped _ rfl
  refine Follows.bindExcept (fun later fault =>
    later.Delivered settings ∧ later.trouble = fault.isSome ∧ later.joined = true)
    (follows_ask rfl ?_) ?_
  · intro fault
    cases fault with
    | none =>
        exact ⟨⟨delivered.opened, delivered.closed, delivered.settled, delivered.handed⟩,
          fine, rfl⟩
    | some fault =>
        exact ⟨⟨delivered.opened, delivered.closed, delivered.settled, delivered.handed⟩,
          rfl, rfl⟩
  · rintro later fault ⟨there, trouble, joined⟩
    cases fault with
    | none => exact ⟨there, trouble, joined⟩
    | some fault => exact .troubled there trouble

/-- The report yields what was told, unless nothing was received or it cannot be written. -/
theorem follows_report
    (delivered : course.Delivered settings)
    (fine : course.trouble = false)
    (joined : course.joined = true)
    {sent : Sent}
    (count : sent.count = settings.count) :
    settings.protocol.Follows (Outcome (Course.Returned settings) (Course.Broken settings))
      course (report sent).run := by
  unfold report
  refine Follows.bindExcept (fun later counts =>
    later.Delivered settings ∧ later.trouble = false ∧ later.joined = true ∧
      later.counts = some counts)
    (follows_ask (show settings.MayAsk course .counts from joined) fun counts =>
      ⟨⟨delivered.opened, delivered.closed, delivered.settled, delivered.handed⟩, fine, joined,
        rfl⟩) ?_
  rintro later counts ⟨delivered, fine, joined, told⟩
  split
  · next none => exact .deaf counts delivered told none rfl
  next heard =>
  refine Follows.bindIdle (follows_notes delivered.settled _) fun _ => ?_
  refine Follows.bindIdle (follows_idle delivered.settled rfl) fun peak => ?_
  refine Follows.bindExcept (fun later histogram =>
    later.Returned settings
      ⟨SendMetrics.measured sent.count sent.duration sent.largestBurst peak, counts, histogram⟩)
    (follows_ask (show settings.MayAsk later .histogram from joined) fun histogram =>
      ⟨⟨delivered.opened, delivered.closed, delivered.settled, delivered.handed⟩, fine, joined,
        told, rfl, count, heard⟩) ?_
  rintro later histogram returned
  have breaks (failure : Failure) : later.troubled.Broken settings failure :=
    have delivered := returned.delivered
    .troubled ⟨delivered.opened, delivered.closed, delivered.settled, delivered.handed⟩ rfl
  refine Follows.bindIdle (follows_print breaks _) fun _ => ?_
  refine Follows.bindIdle (follows_print breaks _) fun _ => ?_
  refine Follows.bindIdle (follows_print breaks _) fun _ => ?_
  refine Follows.bindIdle (follows_idle returned.delivered.settled rfl) fun _ => ?_
  exact returned

/-- A path is opened, or the measurement ends before anything was sent. -/
theorem follows_listen
    {histogram : Histogram}
    (created : Histogram.create settings.geometry = .ok histogram) :
    settings.protocol.Follows
      (Outcome (fun later _ => later.Ready [] 0) (Course.Broken settings))
      Course.blank (settings.listen histogram).run := by
  unfold listen
  refine Follows.bindExcept (fun later fault =>
    match fault with
    | none => later.Ready [] 0
    | some _ => forall failure, later.Broken settings failure)
    (follows_ask ⟨rfl, rfl, rfl, rfl, created⟩ ?_) ?_
  · intro fault
    cases fault with
    | none => exact ⟨rfl, rfl, rfl, rfl, ⟨rfl, rfl⟩, [], rfl, rfl⟩
    | some fault => exact fun _ => .unopened rfl rfl rfl
  · rintro later fault answered
    cases settings.path with
    | loopback => cases fault <;> first | exact answered | exact answered _
    | datagrams endpoint =>
        refine Follows.bindExcept (fun later _ => later.Ready [] 0)
          (follows_within ?_) ?_
        · cases fault <;> first | exact answered | exact answered _
        · rintro opened _ ready
          refine (follows_notes ready.settled _).weakenReturn ?_
          rintro last _ rfl
          exact ready

/-- A measurement follows its protocol from its first line to its last. -/
theorem follows_session
    (usable : settings.Usable)
    (steps : Nat) :
    settings.protocol.Follows (Outcome (Course.Returned settings) (Course.Broken settings))
      Course.blank (settings.session steps).run := by
  obtain ⟨histogram, created⟩ := usable.histogram
  have unopened (failure : Failure) : Course.blank.troubled.Broken settings failure :=
    .unopened rfl rfl rfl
  unfold session
  refine Follows.bindIdle (follows_print unopened _) fun _ => ?_
  refine Follows.bindExcept (fun later value =>
    later = Course.blank ∧ value = histogram) ?_ ?_
  · unfold Session.createHistogram
    rw [created]
    exact ⟨rfl, rfl⟩
  rintro _ _ ⟨rfl, rfl⟩
  extract_lets goesOn
  have goes : settings.protocol.Follows
      (Outcome (Course.Returned settings) (Course.Broken settings)) Course.blank
      (goesOn ()).run := by
    refine Follows.bindExcept _ (follows_listen created) ?_
    rintro opened _ ready
    refine Follows.bindExcept _ (follows_besideReceiver usable ready steps) ?_
    rintro later sent ⟨delivered, fine, count⟩
    refine Follows.bindExcept _ (follows_stopReceiver delivered fine) ?_
    rintro last _ ⟨delivered, fine, joined⟩
    exact follows_report delivered fine joined count
  split
  · exact goes
  · next cpu chosen =>
    refine Follows.bindExcept (fun later _ => later = Course.blank)
      (follows_within ⟨chosen, fun accepted _ => ?_⟩) ?_
    · cases accepted with
      | true => rfl
      | false => exact unopened _
    · rintro _ _ rfl
      exact goes

end PingSettings
end LatencyMeter
