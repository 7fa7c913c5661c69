import LatencyMeter.Proofs.Loopback.Watch
import LatencyMeter.Proofs.Session.Wire

/-!
# What a measurement on a loopback path loses

If both threads are given turns again and again, the main thread comes to its end: it waits
only for the receive thread, which comes closer to its end with each of its steps once it was
asked to stop. At its end every message that was handed over has been heard once, in the order
of the numbers, and the measured ones have left their samples, but for messages that are lost.
These are the ones in the queue of a receive thread that was asked to stop when it had waited
in vain and had not looked yet whether it is to stop. In every other order of turns nothing is
lost.
-/

namespace LatencyMeter

/-- A schedule gives each thread turns again and again. -/
def IsFair (schedule : Nat -> Turn) : Prop :=
  forall turn now, exists later, now ≤ later ∧ schedule later = turn

namespace Watch

variable {watch : Watch} {settings : PingSettings} {schedule : Nat -> Turn}

/-! ## Progress -/

section Progress

variable (helpful : Turn) (stage goal : Watch -> Prop) (measure : Watch -> Nat)
variable (each : forall watch turn, stage watch ->
  goal (watch.act turn) ∨
    stage (watch.act turn) ∧
      measure (watch.act turn) ≤ measure watch ∧
      (turn = helpful -> measure (watch.act turn) < measure watch))

include each in
/-- When one thread has had its turn the goal is reached or a measure is lower. -/
theorem reached_or_lower
    {now distance : Nat}
    (here : stage (watch.after schedule now))
    (turn : schedule (now + distance) = helpful) :
    exists later, now ≤ later ∧
      (goal (watch.after schedule later) ∨
        stage (watch.after schedule later) ∧
          measure (watch.after schedule later) < measure (watch.after schedule now)) := by
  -- On how far away the next turn of that thread is; turns before it may lower the measure too.
  induction distance generalizing now with
  | zero =>
      refine ⟨now + 1, Nat.le_succ now, ?_⟩
      rcases each _ (schedule now) here with reached | ⟨there, _, lower⟩
      · exact .inl reached
      · exact .inr ⟨there, lower turn⟩
  | succ distance hypothesis =>
      rcases each _ (schedule now) here with reached | ⟨there, most, _⟩
      · exact ⟨now + 1, Nat.le_succ now, .inl reached⟩
      · have there : stage (watch.after schedule (now + 1)) := there
        rw [Nat.add_comm distance, ← Nat.add_assoc] at turn
        obtain ⟨later, ahead, outcome⟩ := hypothesis there turn
        refine ⟨later, Nat.le_of_succ_le ahead, ?_⟩
        rcases outcome with reached | ⟨there, lower⟩
        · exact .inl reached
        · exact .inr ⟨there, Nat.lt_of_lt_of_le lower most⟩

include each in
/-- A stage that every turn keeps or leaves for a goal is left at last, if each turn of one
thread lowers a measure. -/
theorem eventually
    (fair : IsFair schedule)
    {now : Nat}
    (here : stage (watch.after schedule now)) :
    exists later, now ≤ later ∧ goal (watch.after schedule later) := by
  -- Fairness yields one turn of the thread, and the measure bounds how many are needed.
  induction bound : measure (watch.after schedule now) using Nat.strongRecOn
    generalizing now with
  | ind value hypothesis =>
      obtain ⟨turning, ahead, turn⟩ := fair helpful now
      obtain ⟨distance, rfl⟩ := Nat.exists_eq_add_of_le ahead
      obtain ⟨later, ahead, reached | ⟨there, lower⟩⟩ :=
        reached_or_lower helpful stage goal measure each here turn
      · exact ⟨later, ahead, reached⟩
      · obtain ⟨last, further, reached⟩ := hypothesis _ (bound ▸ lower) there rfl
        exact ⟨last, Nat.le_trans ahead further, reached⟩

end Progress

variable {request : Session.Request}
  {next : request.Answer ->
    Program Session.Request Session.Request.Answer (Except Failure PingResult)}

/-- The main thread stands before a program, and everything is as it should be. -/
structure Asks
    (watch : Watch)
    (settings : PingSettings)
    (main : Program Session.Request Session.Request.Answer (Except Failure PingResult)) :
    Prop where
  sound : watch.Sound settings
  main_eq : watch.threads.main = main

/-- A turn of the receive thread leaves the main thread where it is. -/
theorem Asks.act_receiver
    {main : Program Session.Request Session.Request.Answer (Except Failure PingResult)}
    (isLocal : settings.IsLocal)
    (asks : watch.Asks settings main) :
    (watch.act .receiver).Asks settings main :=
  ⟨asks.sound.act isLocal .receiver, asks.main_eq⟩

/-- A turn of the main thread answers its request, or the receive thread was asked to stop and
has not ended. -/
theorem Asks.act_main
    (isLocal : settings.IsLocal)
    (asks : watch.Asks settings (.ask request next)) :
    (exists given, (watch.act .main).Asks settings (next given)) ∨
      watch.act .main = watch ∧ watch.course.stopped = true ∧
        0 < watch.threads.host.actsToEnd := by
  have follows := asks.sound.follows
  rw [asks.main_eq] at follows
  cases answered : watch.threads.host.answer? request with
  | some answer =>
      refine .inl ⟨answer.1, asks.sound.act isLocal .main, ?_⟩
      rw [act_main_of_answered asks.main_eq answered]
  | none =>
      rcases asks.sound.serves.answers_or_waits follows.1 with ⟨_, _, answers⟩ | waits
      · rw [answered] at answers
        contradiction
      · exact .inr ⟨act_main_of_waiting asks.main_eq answered, waits⟩

/-- A turn of the receive thread brings it closer to its end once it was asked to stop. -/
theorem Asks.closer
    {main : Program Session.Request Session.Request.Answer (Except Failure PingResult)}
    (isLocal : settings.IsLocal)
    (asks : watch.Asks settings main)
    (stopped : watch.course.stopped = true) :
    (watch.act .receiver).threads.host.actsToEnd ≤ watch.threads.host.actsToEnd - 1 :=
  (asks.sound.serves.receive isLocal.usable.bucketWidth_pos isLocal.room
    asks.sound.cooperates).2.2 stopped

/-- The main thread does not have to wait. -/
structure AsksFreely
    (watch : Watch)
    (settings : PingSettings)
    (main : Program Session.Request Session.Request.Answer (Except Failure PingResult)) :
    Prop extends Asks watch settings main where
  free : watch.course.stopped = true -> watch.threads.host.actsToEnd = 0

/-- At last the main thread has gone on, or it does not have to wait any longer. -/
theorem Asks.comes_free
    (isLocal : settings.IsLocal)
    (fair : IsFair schedule)
    {now : Nat}
    (asks : (watch.after schedule now).Asks settings (.ask request next)) :
    exists later, now ≤ later ∧
      ((exists given, (watch.after schedule later).Asks settings (next given)) ∨
        (watch.after schedule later).AsksFreely settings (.ask request next)) := by
  have each (watch : Watch) (turn : Turn) (asks : watch.Asks settings (.ask request next)) :
      ((exists given, (watch.act turn).Asks settings (next given)) ∨
          (watch.act turn).AsksFreely settings (.ask request next)) ∨
        (watch.act turn).Asks settings (.ask request next) ∧
          (watch.act turn).threads.host.actsToEnd ≤ watch.threads.host.actsToEnd ∧
          (turn = .receiver ->
            (watch.act turn).threads.host.actsToEnd < watch.threads.host.actsToEnd) := by
    cases turn with
    | main =>
        rcases asks.act_main isLocal with advances | ⟨same, _, _⟩
        · exact .inl (.inl advances)
        · rw [same]
          exact .inr ⟨asks, Nat.le_refl _, nofun⟩
    | receiver =>
        have asks' := asks.act_receiver isLocal
        by_cases free : watch.course.stopped = true ->
            (watch.act .receiver).threads.host.actsToEnd = 0
        · exact .inl (.inr ⟨asks', free⟩)
        -- Only the steps of a receive thread that was asked to stop have to be counted.
        · obtain ⟨stopped, left⟩ := Classical.not_imp.mp free
          have closer := asks.closer isLocal stopped
          exact .inr ⟨asks', by omega, fun _ => by omega⟩
  exact eventually .receiver (Asks · settings (.ask request next))
    (fun watch => (exists given, watch.Asks settings (next given)) ∨
      watch.AsksFreely settings (.ask request next))
    (fun watch => watch.threads.host.actsToEnd) each fair asks

/-- Every request of the main thread is answered at last. -/
theorem Asks.advances
    (isLocal : settings.IsLocal)
    (fair : IsFair schedule)
    {now : Nat}
    (asks : (watch.after schedule now).Asks settings (.ask request next)) :
    exists later, now ≤ later ∧
      exists given, (watch.after schedule later).Asks settings (next given) := by
  have each (watch : Watch) (turn : Turn)
      (asks : watch.AsksFreely settings (.ask request next)) :
      (exists given, (watch.act turn).Asks settings (next given)) ∨
        (watch.act turn).AsksFreely settings (.ask request next) ∧
          0 ≤ 0 ∧ (turn = .main -> 0 < 0) := by
    cases turn with
    | main =>
        rcases asks.toAsks.act_main isLocal with advances | ⟨_, stopped, waits⟩
        · exact .inl advances
        · rw [asks.free stopped] at waits
          contradiction
    | receiver =>
        refine .inr ⟨⟨asks.toAsks.act_receiver isLocal, fun stopped => ?_⟩, Nat.le_refl _, nofun⟩
        have closer := asks.toAsks.closer isLocal stopped
        rw [asks.free stopped] at closer
        exact Nat.le_zero.mp closer
  obtain ⟨later, ahead, advances | free⟩ := asks.comes_free isLocal fair
  · exact ⟨later, ahead, advances⟩
  · obtain ⟨last, further, advances⟩ :=
      eventually .main (AsksFreely · settings (.ask request next))
        (fun watch => exists given, watch.Asks settings (next given)) (fun _ => 0) each fair free
    exact ⟨last, Nat.le_trans ahead further, advances⟩

/-- A main thread that is not cut off comes to its end. -/
theorem Asks.finishes
    (isLocal : settings.IsLocal)
    (fair : IsFair schedule)
    (notCutOff : forall moment, (watch.after schedule moment).threads.main ≠ .unfinished)
    {main : Program Session.Request Session.Request.Answer (Except Failure PingResult)}
    {now : Nat}
    (asks : (watch.after schedule now).Asks settings main) :
    exists later result, (watch.after schedule later).Asks settings (.done result) := by
  induction main generalizing now with
  | done result => exact ⟨now, result, asks⟩
  | unfinished => exact absurd asks.main_eq (notCutOff now)
  | ask request next hypothesis =>
      obtain ⟨later, _, given, advanced⟩ := asks.advances isLocal fair
      exact hypothesis given advanced

/-- A main thread that has come to its end stays there. -/
theorem result_after
    {now later : Nat}
    {outcome : Except Failure PingResult}
    (ends : (watch.after schedule now).threads.result? = some outcome)
    (ahead : now ≤ later) :
    (watch.after schedule later).threads.result? = some outcome := by
  have silent (request) (next) :
      (watch.after schedule now).threads.main ≠ .ask request next := by
    intro asks
    rw [Threads.result?, asks] at ends
    contradiction
  rw [Threads.result?, main_after_of_silent silent ahead]
  exact ends

/-- A main thread that has come to its end was never cut off. -/
theorem not_cut_off
    {now : Nat}
    {outcome : Except Failure PingResult}
    (ends : (watch.after schedule now).threads.result? = some outcome)
    (moment : Nat) :
    (watch.after schedule moment).threads.main ≠ .unfinished := by
  intro cut
  have silent : forall request next,
      (watch.after schedule moment).threads.main ≠ .ask request next := by simp [cut]
  have last := result_after ends (Nat.le_max_left now moment)
  rw [Threads.result?, main_after_of_silent silent (Nat.le_max_right now moment), cut] at last
  contradiction

/-! ## The end -/

/-- A measurement has lost and doubled nothing: every message that was handed over was heard
once, in its order and not before it was sent, and each measured one has left its sample. -/
structure Complete (watch : Watch) (settings : PingSettings) (result : PingResult) : Prop where
  sends : result.send.sends = settings.count
  counts : result.receive = ⟨UInt64.ofNat settings.messageCount, 0, 0, 0, 0⟩
  heard : watch.course.ledger.handed =
    (watch.pickups.map Pickup.message).map Handover.accepted
  all : watch.pickups.length = settings.messageCount
  messages : forall number pickup, watch.pickups[number]? = some pickup ->
    settings.IsBuffer number pickup.message ∧ pickup.sentAt ≤ pickup.receivedAt
  histogram : result.histogram =
    Histogram.ofSamples settings.geometry.bucketCount.toNat settings.geometry.bucketWidth
      ((watch.pickups.drop settings.warmupCount).map Pickup.interval)
  samples : result.histogram.count = settings.count
  outstanding : watch.threads.host.flight.outstanding = 0

/-- Some messages are lost, which are the last ones. Every other message was heard once, in its
order and not before it was sent. -/
structure Accounted (watch : Watch) (settings : PingSettings) (lost : List Payload) : Prop where
  heard : watch.course.ledger.handed =
    (watch.pickups.map Pickup.message ++ lost).map Handover.accepted
  all : watch.pickups.length + lost.length = settings.messageCount
  messages : forall number pickup, watch.pickups[number]? = some pickup ->
    settings.IsBuffer number pickup.message ∧ pickup.sentAt ≤ pickup.receivedAt
  outstanding : watch.threads.host.flight.outstanding.toInt = lost.length

/-- A measurement was cut short: some messages are lost. It succeeds with the number of the others
and with the samples of the measured ones among them, or fails if there are no others. -/
structure CutShort
    (watch : Watch)
    (settings : PingSettings)
    (lost : List Payload)
    (outcome : Except Failure PingResult) :
    Prop extends Accounted watch settings lost where
  loses : lost ≠ []
  failed : watch.pickups = [] -> outcome = .error (Failure.ofCause .nothingReceived)
  succeeded : watch.pickups ≠ [] -> exists result,
    outcome = .ok result ∧
      result.send.sends = settings.count ∧
      result.receive = ⟨UInt64.ofNat watch.pickups.length, 0, 0, 0, 0⟩ ∧
      result.histogram =
        Histogram.ofSamples settings.geometry.bucketCount.toNat settings.geometry.bucketWidth
          ((watch.pickups.drop settings.warmupCount).map Pickup.interval)

/-- A measurement that was cut short has not received all messages. -/
theorem CutShort.received_ne
    {lost : List Payload}
    {result : PingResult}
    (room : settings.messageCount < 2 ^ 63)
    (short : watch.CutShort settings lost (.ok result)) :
    result.receive.received ≠ UInt64.ofNat settings.messageCount := by
  have size : UInt64.size = 2 ^ 64 := rfl
  have all := short.all
  have loses := List.length_pos_of_ne_nil short.loses
  have some : watch.pickups ≠ [] := fun none => absurd (short.failed none) nofun
  obtain ⟨_, same, _, receive, _⟩ := short.succeeded some
  obtain rfl := Except.ok.inj same
  intro received
  rw [receive] at received
  have counts := congrArg UInt64.toNat received
  rw [UInt64.toNat_ofNat_of_lt' (by omega), UInt64.toNat_ofNat_of_lt' (by omega)] at counts
  omega

/-- What is known once all messages were delivered and the receive thread has ended. -/
structure Ended (watch : Watch) (settings : PingSettings) : Prop
    extends Accounted watch settings watch.threads.host.lost where
  counts : forall counts, watch.course.counts = some counts ->
    counts = ⟨UInt64.ofNat watch.pickups.length, 0, 0, 0, 0⟩
  histogram : forall histogram, watch.course.histogram = some histogram ->
    histogram = settings.histogramOf watch.pickups

/-- The main thread is told the counts only once the receive thread was joined. -/
theorem Sound.joined_of_counts
    (sound : watch.Sound settings)
    {counts : ReceiveCounts}
    (told : watch.course.counts = some counts) :
    watch.course.joined = true := by
  have notBlank : watch.course ≠ Course.blank := by
    intro blank
    rw [blank] at told
    contradiction
  obtain ⟨path, _, _, _, attended⟩ := sound.serves.exists_path notBlank
  exact (attended.counts counts told).1

/-- What a receive thread that has ended has not heard is lost. -/
theorem Sound.ended
    (isLocal : settings.IsLocal)
    (sound : watch.Sound settings)
    (delivered : watch.course.Delivered settings)
    (joined : watch.course.joined = true) :
    watch.Ended settings := by
  have notBlank : watch.course ≠ Course.blank := by
    intro blank
    rw [blank] at joined
    contradiction
  obtain ⟨path, receiver, _, carries, attended⟩ := sound.serves.exists_path notBlank
  have lost : watch.threads.host.lost = path.lost := by rw [Host.lost, receiver]
  have finished := attended.joined joined
  -- The thread holds nothing, so what it has not heard is in the queue.
  have inTransit := carries.inTransit
  rw [LoopbackPath.held, finished, List.append_nil, ← attended.lost_eq_queue finished,
    ← lost] at inTransit
  have heard := inTransit.handed_eq
  have all : watch.pickups.length + watch.threads.host.lost.length = settings.messageCount := by
    obtain ⟨messages, handed, count⟩ := delivered.handed
    rw [handed] at heard
    simpa [count] using (congrArg List.length heard).symm
  have room := isLocal.room
  refine ⟨⟨heard, all, ?_, ?_⟩, ?_, ?_⟩
  · intro number pickup present
    have timely := inTransit.timely number pickup present
    obtain ⟨inRange, _⟩ := List.getElem?_eq_some_iff.mp present
    obtain ⟨_, _, isMessage⟩ := id timely
    exact ⟨isMessage.isBuffer (by omega), timely.sentAt_le⟩
  · have same : watch.threads.host.flight = path.sink.roundTrip.flight := by
      rw [Host.flight, receiver]
      rfl
    rw [same, carries.heard.outstanding, delivered.settled.counted, heard, List.length_map,
      List.length_append, List.length_map]
    omega
  · intro counts told
    rw [(attended.counts counts told).2, carries.heard.counts]
  · intro histogram told
    rw [(attended.histogram histogram told).2, carries.heard.histogram]

/-- A measurement that comes to its end fails only because it has heard no message. -/
theorem Asks.ends
    {outcome : Except Failure PingResult}
    (isLocal : settings.IsLocal)
    (asks : watch.Asks settings (.done outcome)) :
    watch.Ended settings ∧
      (outcome = .error (Failure.ofCause .nothingReceived) ∧ watch.pickups = [] ∨
        exists result, outcome = .ok result ∧ watch.course.Returned settings result ∧
          watch.pickups ≠ []) := by
  have size : UInt64.size = 2 ^ 64 := rfl
  have room := isLocal.room
  have sound := asks.sound
  have follows := sound.follows
  rw [asks.main_eq] at follows
  cases outcome with
  | ok result =>
      have returned : watch.course.Returned settings result := follows
      have ended := sound.ended isLocal returned.delivered returned.joined
      refine ⟨ended, .inr ⟨result, rfl, returned, fun none => returned.heard ?_⟩⟩
      rw [ended.counts _ returned.counts, none]
      rfl
  | error failure =>
      cases follows with
      | unopened _ _ trouble | troubled _ trouble =>
          rw [sound.fine] at trouble
          contradiction
      | refused fault refused => exact absurd sound.serves.willing refused.not_willing
      | deaf counts delivered told none cause =>
          have ended := sound.ended isLocal delivered (sound.joined_of_counts told)
          have all := ended.all
          rw [ended.counts counts told] at none
          have zero := congrArg UInt64.toNat none
          rw [UInt64.toNat_ofNat_of_lt' (by omega)] at zero
          exact ⟨ended, .inl ⟨congrArg Except.error cause, List.length_eq_zero_iff.mp zero⟩⟩

/-- A measurement that has lost nothing is complete. -/
theorem Asks.complete
    {outcome : Except Failure PingResult}
    (isLocal : settings.IsLocal)
    (asks : watch.Asks settings (.done outcome))
    (nothing : watch.threads.host.lost = []) :
    exists result, outcome = .ok result ∧ watch.Complete settings result := by
  obtain ⟨ended, ends⟩ := asks.ends isLocal
  have all := ended.all
  have heard := ended.heard
  have outstanding := ended.outstanding
  rw [nothing, List.length_nil, Nat.add_zero] at all
  rw [nothing, List.append_nil] at heard
  rw [nothing] at outstanding
  obtain ⟨_, none⟩ | ⟨result, rfl, returned, _⟩ := ends
  · -- There is at least one measured message.
    have some := isLocal.usable.count
    rw [none, PingSettings.messageCount] at all
    simp only [List.length_nil] at all
    omega
  have histogram := ended.histogram _ returned.histogram
  refine ⟨result, rfl, returned.sends, ?_, heard, all, ended.messages, histogram, ?_,
    Int64.toInt_inj.mp outstanding⟩
  · rw [ended.counts _ returned.counts, all]
  · rw [histogram]
    change UInt64.ofNat (settings.samplesOf watch.pickups).length = settings.count
    rw [PingSettings.samplesOf, List.length_map, List.length_drop, all]
    change UInt64.ofNat (settings.warmupCount + settings.count.toNat - settings.warmupCount) = _
    rw [Nat.add_sub_cancel_left, UInt64.ofNat_toNat]

/-- A measurement that has lost messages was cut short. -/
theorem Asks.cutShort
    {outcome : Except Failure PingResult}
    (isLocal : settings.IsLocal)
    (asks : watch.Asks settings (.done outcome))
    (loses : watch.threads.host.lost ≠ []) :
    watch.CutShort settings watch.threads.host.lost outcome := by
  obtain ⟨ended, ends⟩ := asks.ends isLocal
  refine ⟨ended.toAccounted, loses, ?_, ?_⟩
  · intro none
    obtain ⟨failed, _⟩ | ⟨_, _, _, some⟩ := ends
    · exact failed
    · exact absurd none some
  · intro some
    obtain ⟨_, none⟩ | ⟨result, succeeds, returned, _⟩ := ends
    · exact absurd none some
    · exact ⟨result, succeeds, returned.sends, ended.counts _ returned.counts,
        ended.histogram _ returned.histogram⟩

/-- A measurement with accepted options on a loopback path that binds no core, on a host whose
clock does not go back and whose outputs refuse nothing, comes to an end in every order in which
both threads are given turns again and again, if its sending loops do.

Unless messages are forsaken in some turn it succeeds, and every message that was handed over
has been heard once, none is unconfirmed, none was ignored, lost or recovered, no sample was
rejected, and the histogram holds the round trips of the measured messages and nothing else. If
messages are forsaken in a turn, then these are lost and no others, and what is said above holds
of the messages before them. -/
theorem measurement_completes_unless_forsaken
    {options : PingOptions}
    (accepted : options.settings = .ok settings)
    (loopback : settings.path = .loopback)
    (unbound : settings.senderCpu = none)
    (room : settings.messageCount < 2 ^ 63)
    (steps : Nat)
    {clock : Nat -> UInt64}
    (forwards : forall earlier later, earlier ≤ later -> clock earlier ≤ clock later)
    (network : Nat -> Payload -> Option TransportFault)
    (binder : Binder)
    (fair : IsFair schedule)
    (notCutOff : forall moment,
      ((start settings steps (Host.start clock network binder)).after schedule
        moment).threads.main ≠ .unfinished) :
    let after := (start settings steps (Host.start clock network binder)).after schedule
    let forsaken := fun moment => (after moment).threads.forsaken (schedule moment)
    exists outcome ending, forall moment, ending ≤ moment ->
      (after moment).threads.result? = some outcome ∧
        ((forall earlier, forsaken earlier = []) ->
          exists result, outcome = .ok result ∧ (after moment).Complete settings result) ∧
        forall earlier, forsaken earlier ≠ [] ->
          (after moment).CutShort settings (forsaken earlier) outcome := by
  intro after forsaken
  have isLocal : settings.IsLocal :=
    ⟨PingOptions.usable_of_accepted accepted, loopback, unbound, room⟩
  have cooperates : (Host.start clock network binder).Cooperates := ⟨forwards, fun _ => rfl⟩
  have sound := Sound.start isLocal steps cooperates rfl
  have begins : (after 0).Asks settings (settings.session steps).run := ⟨sound, rfl⟩
  obtain ⟨ending, outcome, ends⟩ := begins.finishes isLocal fair notCutOff
  -- A thread at its end stays there, while the receive thread may go on to be given turns.
  have stays (moment : Nat) (ahead : ending ≤ moment) :
      (after moment).threads.main = .done outcome :=
    (main_after_of_silent (by simp [ends.main_eq]) ahead).trans ends.main_eq
  refine ⟨outcome, ending, fun moment ahead => ?_⟩
  have asks : (after moment).Asks settings (.done outcome) :=
    ⟨sound.after isLocal schedule moment, stays moment ahead⟩
  refine ⟨?_, fun none => ?_, fun earlier forsakes => ?_⟩
  · rw [Threads.result?, asks.main_eq]
  · exact asks.complete isLocal (sound.lost_after_of_none isLocal fun earlier _ => none earlier)
  · -- Messages are forsaken by a request, so before the main thread has come to its end.
    have before : earlier < moment := by
      refine Nat.lt_of_not_le fun late => forsakes ?_
      exact Threads.forsaken_of_done (stays earlier (Nat.le_trans ahead late)) _
    have lost := sound.lost_after_of_forsaken isLocal forsakes before
    change _ = forsaken earlier at lost
    exact lost ▸ asks.cutShort isLocal (lost ▸ forsakes)

/-! ## A small measurement -/

/-- Options of a measurement inside the process, with three warmup loops and two measured
messages. -/
def smallOptions : PingOptions :=
  let address := SocketAddress.v4 Ipv4.unspecified 9
  { rate := 5, count := 2, length := 24, geometry := ⟨4, 10⟩, warmup := ⟨3, 2⟩,
    delay := some (Duration.ofNanos 5), senderCpu := none, receiverCpu := none,
    lingerMillis := 1, pause := Duration.ofNanos 9, dest := address, bind := address,
    interface := none, join := none, loopback := true, outputFile := none }

/-- The settings that these options are accepted for. -/
def smallSettings : PingSettings :=
  { rate := 5, count := 2, length := 24, geometry := ⟨4, 10⟩, warmup := ⟨3, 2⟩,
    senderCpu := none, receiverCpu := none, linger := Duration.ofMillis 1,
    pause := Duration.ofNanos 9, delay := some (Duration.ofNanos 5), path := .loopback }

/-- A clock that advances by the same time with each reading. -/
def smallClock (reading : Nat) : UInt64 := Word.clamp (reading * 10)

/-- This measurement, about to begin. -/
def small : Watch :=
  start smallSettings 9 (Host.start smallClock (fun _ _ => none) ⟨fun _ _ => true, []⟩)

/-- The threads alternate, but for a while in which the main thread has all turns. -/
def alternation (first last moment : Nat) : Turn :=
  if first ≤ moment ∧ moment < last then .main else if moment % 2 = 0 then .main else .receiver

theorem smallClock_forwards (earlier later : Nat) (ahead : earlier ≤ later) :
    smallClock earlier ≤ smallClock later := by
  unfold smallClock
  rw [UInt64.le_iff_toNat_le, Word.toNat_clamp, Word.toNat_clamp]
  omega

theorem isFair_alternation (first last : Nat) : IsFair (alternation first last) := by
  intro turn now
  unfold alternation
  cases turn with
  | main =>
      refine ⟨2 * (now + last), by omega, ?_⟩
      rw [if_neg (by omega), if_pos (by omega)]
  | receiver =>
      refine ⟨2 * (now + last) + 1, by omega, ?_⟩
      rw [if_neg (by omega), if_neg (by omega)]

/-- What a result says of the messages that were sent and heard, and how many samples it has. -/
def figures (result : PingResult) : UInt64 × ReceiveCounts × UInt64 :=
  (result.send.sends, result.receive, result.histogram.count)

/-- A main thread that ends with some figures ends with a result that has them. -/
theorem exists_result
    {expected : UInt64 × ReceiveCounts × UInt64}
    (ends : watch.threads.result?.map (fun outcome => outcome.toOption.map figures) =
      some (some expected)) :
    exists result, watch.threads.result? = some (.ok result) ∧ figures result = expected := by
  obtain ⟨outcome, ended, shown⟩ := Option.map_eq_some_iff.mp ends
  cases outcome with
  | error failure => contradiction
  | ok result => exact ⟨result, ended, Option.some.inj shown⟩

/-- The threads of the small measurement alternate all the time. Then no messages are forsaken
and the measurement is complete. -/
theorem alternation_completes :
    let after := small.after (alternation 0 0)
    smallOptions.settings = .ok smallSettings ∧
      smallSettings.path = .loopback ∧
      smallSettings.senderCpu = none ∧
      smallSettings.messageCount < 2 ^ 63 ∧
      (forall earlier later, earlier ≤ later -> smallClock earlier ≤ smallClock later) ∧
      IsFair (alternation 0 0) ∧
      (forall moment, (after moment).threads.main ≠ .unfinished) ∧
      exists result moment,
        (after moment).threads.result? = some (.ok result) ∧
          (after moment).Complete smallSettings result ∧
          figures result = (2, ⟨5, 0, 0, 0, 0⟩, 2) := by
  intro after
  have room : smallSettings.messageCount < 2 ^ 63 := by decide
  have fair := isFair_alternation 0 0
  have ends : (after 160).threads.result?.map (fun outcome => outcome.toOption.map figures) =
      some (some (2, ⟨5, 0, 0, 0, 0⟩, 2)) := by decide +kernel
  obtain ⟨result, success, shown⟩ := exists_result ends
  have notCutOff := not_cut_off success
  obtain ⟨outcome, ending, holds⟩ := measurement_completes_unless_forsaken
    (rfl : smallOptions.settings = .ok smallSettings) rfl rfl room 9 smallClock_forwards
    (fun _ _ => none) ⟨fun _ _ => true, []⟩ fair notCutOff
  obtain ⟨ended, complete, cutShort⟩ := holds (max ending 160) (Nat.le_max_left _ _)
  obtain rfl := Option.some.inj
    (ended.symm.trans (result_after success (Nat.le_max_right ending 160)))
  refine ⟨rfl, rfl, rfl, room, smallClock_forwards, fair, notCutOff, result, max ending 160,
    ended, ?_, shown⟩
  by_cases none : forall earlier, (after earlier).threads.forsaken (alternation 0 0 earlier) = []
  · obtain ⟨_, same, complete⟩ := complete none
    rwa [Except.ok.inj same]
  · -- All five messages were heard, so none was forsaken.
    obtain ⟨earlier, forsakes⟩ := Classical.not_forall.mp none
    have received := (cutShort earlier forsakes).received_ne room
    have five := congrArg (fun figures => figures.2.1.received) shown
    exact absurd five received

/-- The receive thread of the small measurement has waited in vain for the last message when the
main thread has all turns for a while: it sends the last message, closes the path and asks the
receive thread to stop. The measurement succeeds, but the last message is lost and unconfirmed. -/
theorem rush_cuts_short :
    let after := small.after (alternation 68 84)
    smallOptions.settings = .ok smallSettings ∧
      smallSettings.path = .loopback ∧
      smallSettings.senderCpu = none ∧
      smallSettings.receiverCpu = none ∧
      smallSettings.messageCount = 5 ∧
      (forall earlier later, earlier ≤ later -> smallClock earlier ≤ smallClock later) ∧
      IsFair (alternation 68 84) ∧
      (forall moment, (after moment).threads.main ≠ .unfinished) ∧
      exists result,
        (after 120).threads.result? = some (.ok result) ∧
          figures result = (2, ⟨4, 0, 0, 0, 0⟩, 1) ∧
          (after 120).threads.host.flight.outstanding = 1 ∧
          ¬ (after 120).Complete smallSettings result := by
  intro after
  have ends : (after 120).threads.result?.map (fun outcome => outcome.toOption.map figures) =
      some (some (2, ⟨4, 0, 0, 0, 0⟩, 1)) := by decide +kernel
  have outstanding : (after 120).threads.host.flight.outstanding = 1 := by decide +kernel
  obtain ⟨result, success, shown⟩ := exists_result ends
  refine ⟨rfl, rfl, rfl, rfl, rfl, smallClock_forwards, isFair_alternation 68 84,
    not_cut_off success, result, success, shown, outstanding, fun complete => ?_⟩
  exact absurd (complete.outstanding.symm.trans outstanding) (by decide)

end Watch
end LatencyMeter
