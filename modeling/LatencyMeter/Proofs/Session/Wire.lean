import LatencyMeter.Proofs.Session.Phases

/-!
# What the transport gets

Whatever the surroundings of a measurement answer, the buffers that its transport gets are a
beginning of one sequence: first the unstamped ones of the warmup, then the stamped ones that
are measured, numbered from zero on. Every exchange keeps this, and the result of the
measurement tells whether the sequence is complete.
-/

namespace LatencyMeter

/-- No message was refused among those that were accepted. -/
theorem Course.fault_of_mem_take (messages : List Payload) (count : Nat) :
    forall handover, handover ∈ (messages.map Handover.accepted).take count ->
      handover.fault = none := by
  intro handover member
  obtain ⟨_, _, rfl⟩ := List.mem_map.mp (List.mem_of_mem_take member)
  rfl

namespace PingSettings

open Protocol

variable {settings : PingSettings} {course : Course}

/-- A buffer of a measurement has the length of all messages and the number of its place, and
it is stamped if it is to be measured. -/
structure IsBuffer (settings : PingSettings) (number : Nat) (message : Payload) : Prop where
  length : message.length = settings.length.toNat
  header : exists header,
    Header.decode message = .ok header ∧ header.number.toNat = number ∧
      if number < settings.warmupCount then header.flags = 0 ∧ header.sentAt = 0
      else header.flags = Header.timestampFlag

/-- What the transport gets during a measurement. -/
structure OnTheWire (settings : PingSettings) (course : Course) : Prop where
  buffers : forall number handover, course.ledger.handed[number]? = some handover ->
    settings.IsBuffer number handover.message
  within : course.ledger.handed.length ≤ settings.messageCount
  willing : course.Willing ∨ exists fault, course.RefusedBy fault
  resets : course.resets = [] ∧ course.ledger.handed.length ≤ settings.warmupCount ∨
    course.resets = [settings.warmupCount] ∧
      settings.warmupCount ≤ course.ledger.handed.length ∧
      forall handover, handover ∈ course.ledger.handed.take settings.warmupCount ->
        handover.fault = none

theorem IsMessage.isBuffer
    {number : Nat}
    {stamp : UInt64}
    {message : Payload}
    (isMessage : settings.IsMessage number stamp message)
    (room : number < 2 ^ 63) :
    settings.IsBuffer number message := by
  have size : UInt64.size = 2 ^ 64 := rfl
  refine ⟨isMessage.length, _, isMessage.decoded, UInt64.toNat_ofNat_of_lt' (by omega), ?_⟩
  split
  · next early =>
    have unstamped : ¬ settings.warmupCount ≤ number := Nat.not_le.mpr early
    simp [unstamped, Sending.flagsFor]
  · next late => simp [Nat.not_lt.mp late, Sending.flagsFor]

namespace OnTheWire

theorem start : settings.OnTheWire Course.blank where
  buffers := by simp [Course.blank, Ledger.blank]
  within := Nat.zero_le _
  willing := .inl ⟨[], rfl⟩
  resets := .inl ⟨rfl, Nat.zero_le _⟩

/-- What neither hands a message over nor forgets samples does not show on the wire. -/
theorem frame
    {later : Course}
    (onTheWire : settings.OnTheWire course)
    (handed : later.ledger.handed = course.ledger.handed)
    (resets : later.resets = course.resets) :
    settings.OnTheWire later := by
  refine ⟨?_, ?_, ?_, ?_⟩
  · rw [handed]
    exact onTheWire.buffers
  · rw [handed]
    exact onTheWire.within
  · unfold Course.Willing Course.RefusedBy
    rw [handed]
    exact onTheWire.willing
  · rw [handed, resets]
    exact onTheWire.resets

/-- The next buffer is handed over. -/
theorem transmit
    (room : settings.messageCount < 2 ^ 63)
    (onTheWire : settings.OnTheWire course)
    {message : Payload}
    (asks : settings.MayLaunch course (.transmit message))
    (fault : Option TransportFault) :
    settings.OnTheWire (course.after (.sending (.transmit message)) fault) := by
  obtain ⟨_, _, ⟨messages, handed⟩, left, resets⟩ := asks.left rfl
  have grown : (course.after (.sending (.transmit message)) fault).ledger.handed =
      course.ledger.handed ++ [⟨message, fault⟩] := rfl
  refine ⟨?_, ?_, ?_, ?_⟩
  · intro number handover present
    rw [grown] at present
    rcases getElem?_append_singleton_cases present with earlier | ⟨rfl, rfl⟩
    · exact onTheWire.buffers number handover earlier
    · exact (asks.described message rfl).isBuffer (by omega)
  · rw [grown, List.length_append]
    exact left
  · cases fault with
    | none => exact .inl ⟨messages ++ [message], by rw [grown, handed]; simp [Handover.accepted]⟩
    | some fault => exact .inr ⟨fault, messages, message, by rw [grown, handed]⟩
  · rw [grown, List.length_append, List.length_singleton]
    change course.resets = [] ∧ _ ∨ course.resets = [settings.warmupCount] ∧ _
    split at resets
    · next late =>
      refine .inr ⟨resets, Nat.le_succ_of_le late, ?_⟩
      rw [List.take_append_of_le_length late, handed]
      exact Course.fault_of_mem_take _ _
    · next early => exact .inl ⟨resets, Nat.not_le.mp early⟩

theorem after
    (room : settings.messageCount < 2 ^ 63)
    (onTheWire : settings.OnTheWire course)
    {request : Session.Request}
    (asks : settings.MayAsk course request)
    (answer : request.Answer) :
    settings.OnTheWire (course.after request answer) := by
  cases request with
  | sending request =>
      cases request with
      | transmit message => exact onTheWire.transmit room asks answer
      | clock purpose => cases purpose <;> exact onTheWire.frame rfl rfl
      | _ => exact onTheWire.frame rfl rfl
  | resetSamples =>
      obtain ⟨_, none, ⟨messages, handed⟩, warm⟩ := asks
      refine ⟨onTheWire.buffers, onTheWire.within, onTheWire.willing, .inr ⟨?_, ?_, ?_⟩⟩
      · change course.resets ++ [course.ledger.handed.length] = [settings.warmupCount]
        rw [none, warm, List.nil_append]
      · exact Nat.le_of_eq warm.symm
      · change forall handover, handover ∈ course.ledger.handed.take settings.warmupCount -> _
        rw [handed]
        exact Course.fault_of_mem_take _ _
  | print | bindThread | listen | close | join =>
      cases answer <;> exact onTheWire.frame rfl rfl
  | _ => exact onTheWire.frame rfl rfl

end OnTheWire

/-- Whatever the transport and the host answer during a measurement with accepted options,
the buffers that the transport gets are a beginning of all buffers of the measurement, in
their order. It is all of them if the path was opened, none was refused and the measurement
came to an end; it stops at the first one that is refused, and then the measurement is not
cut off and ends in the failure of the transport. Samples are forgotten once, between the
last buffer of the warmup and the first measured one. -/
theorem wire_follows_phases
    {options : PingOptions}
    (accepted : options.settings = .ok settings)
    (room : settings.messageCount < 2 ^ 63)
    (steps : Nat)
    {rest : Program Session.Request Session.Request.Answer (Except Failure PingResult)}
    (leads : settings.protocol.Leads Course.blank (settings.session steps).run course rest) :
    (forall number handover, course.ledger.handed[number]? = some handover ->
        settings.IsBuffer number handover.message) ∧
      course.ledger.handed.length ≤ settings.messageCount ∧
      (course.Willing ∨ exists fault, course.RefusedBy fault) ∧
      (forall result, rest = .done result -> course.opened = true -> course.Willing ->
        course.ledger.handed.length = settings.messageCount) ∧
      (forall fault, course.RefusedBy fault ->
        rest ≠ .unfinished ∧
          forall result, rest = .done result ->
            exists failure, result = .error failure ∧ failure.cause = .transport fault) ∧
      (course.resets = [] ∧ course.ledger.handed.length ≤ settings.warmupCount ∨
        course.resets = [settings.warmupCount] ∧
          settings.warmupCount ≤ course.ledger.handed.length ∧
          forall handover, handover ∈ course.ledger.handed.take settings.warmupCount ->
            handover.fault = none) := by
  have follows := follows_session (PingOptions.usable_of_accepted accepted) steps
  have onTheWire : settings.OnTheWire course :=
    follows.keeps leads OnTheWire.start fun _ _ answer earlier asks _ =>
      earlier.after room asks answer
  have goesOn := follows.leads leads
  refine ⟨onTheWire.buffers, onTheWire.within, onTheWire.willing, ?_, ?_, onTheWire.resets⟩
  · rintro result rfl opened willing
    have all (delivered : course.Delivered settings) :
        course.ledger.handed.length = settings.messageCount := by
      obtain ⟨messages, handed, count⟩ := delivered.handed
      rw [handed, List.length_map, count]
    cases result with
    | ok result => exact all goesOn.delivered
    | error failure =>
        cases goesOn with
        | unopened closed => rw [opened] at closed; contradiction
        | refused fault refused => exact absurd willing refused.not_willing
        | troubled delivered => exact all delivered
        | deaf counts delivered => exact all delivered
  · intro fault refused
    have unwilling := refused.not_willing
    refine ⟨?_, ?_⟩
    · rintro rfl
      exact unwilling goesOn.2
    · rintro result rfl
      have notDelivered (delivered : course.Delivered settings) : False := by
        obtain ⟨messages, handed, _⟩ := delivered.handed
        exact unwilling ⟨messages, handed⟩
      cases result with
      | ok result => exact (notDelivered goesOn.delivered).elim
      | error failure =>
          refine ⟨failure, rfl, ?_⟩
          cases goesOn with
          | unopened _ handed => exact absurd ⟨[], handed⟩ unwilling
          | refused other also cause => rw [cause, refused.unique also]
          | troubled delivered => exact (notDelivered delivered).elim
          | deaf counts delivered => exact (notDelivered delivered).elim

/-- Answers of surroundings whose clock stands still and whose transport refuses the message
of one number. -/
def answerRefusing (refused : Nat) (course : Course) :
    (request : Session.Request) -> request.Answer
  | .sending (.clock _) => 7
  | .sending .total => UInt64.ofNat course.ledger.raised
  | .sending (.transmit _) =>
      if course.ledger.handed.length = refused then some .disconnected else none
  | .sending .raiseOutstanding | .sending .peak => 0
  | .sending .raiseTotal | .sending (.raisePeak _) | .sending (.wait _) | .sending (.note _)
  | .resetSamples | .stop => ()
  | .bindThread _ => true
  | .print _ | .listen _ _ _ | .reflect _ _ _ | .openProbe _ | .close | .join | .notification =>
      none
  | .counts => ReceiveCounts.zero
  | .histogram => default

/-- These answers tell the count of sent messages as it is. -/
theorem mayAnswer_answerRefusing
    (refused : Nat)
    (course : Course)
    (request : Session.Request) :
    course.MayAnswer request (answerRefusing refused course request) := by
  cases request with
  | sending request =>
      cases request with
      | total => rfl
      | _ => trivial
  | _ => trivial

/-- With three warmup loops and two measured messages, the first measured message is refused. -/
theorem wire_of_refused_message :
    let address := SocketAddress.v4 Ipv4.unspecified 9
    let options : PingOptions :=
      { rate := 5, count := 2, length := 24, geometry := ⟨4, 10⟩, warmup := ⟨3, 2⟩,
        delay := some (Duration.ofNanos 5), senderCpu := none, receiverCpu := none,
        lingerMillis := 1, pause := Duration.ofNanos 9, dest := address, bind := address,
        interface := none, join := none, loopback := true, outputFile := none }
    exists settings course result,
      options.settings = .ok settings ∧
        settings.messageCount < 2 ^ 63 ∧
        settings.protocol.Leads Course.blank (settings.session 9).run course (.done result) ∧
        course.ledger.handed.map Handover.fault = [none, none, none, some .disconnected] ∧
        course.resets = [3] ∧
        exists failure, result = .error failure ∧ failure.cause = .transport .disconnected := by
  intro address options
  let settings : PingSettings :=
    { rate := 5, count := 2, length := 24, geometry := ⟨4, 10⟩, warmup := ⟨3, 2⟩,
      senderCpu := none, receiverCpu := none, linger := Duration.ofMillis 1,
      pause := Duration.ofNanos 9, delay := some (Duration.ofNanos 5), path := .loopback }
  have accepted : options.settings = .ok settings := by rfl
  have room : settings.messageCount < 2 ^ 63 := by decide
  obtain ⟨course, rest, leads, faults, resets, ended⟩ : exists course rest,
      settings.protocol.Leads Course.blank (settings.session 9).run course rest ∧
        course.ledger.handed.map Handover.fault = [none, none, none, some .disconnected] ∧
        course.resets = [3] ∧
        (match rest with
          | .done _ => true
          | .ask _ _ | .unfinished => false) = true :=
    ⟨_, _, leads_converse (mayAnswer_answerRefusing 3) _ _, by decide +kernel,
      by decide +kernel, by decide +kernel⟩
  split at ended
  · next result =>
    obtain ⟨_, _, outcome, _, failed, _⟩ := wire_follows_phases accepted room 9 leads
    refine ⟨settings, course, result, accepted, room, leads, faults, resets, ?_⟩
    have last : forall fault, course.RefusedBy fault -> fault = .disconnected := by
      rintro fault ⟨messages, message, handed⟩
      rw [handed, List.map_append] at faults
      simpa using congrArg List.getLast? faults
    rcases outcome with ⟨messages, willing⟩ | ⟨fault, refused⟩
    · rw [willing, List.map_map] at faults
      have member : some TransportFault.disconnected ∈
          messages.map (Handover.fault ∘ Handover.accepted) := by
        rw [faults]
        simp
      obtain ⟨_, _, impossible⟩ := List.mem_map.mp member
      contradiction
    · obtain rfl := last fault refused
      exact (failed _ refused).2 result rfl
  · contradiction
  · contradiction

end PingSettings
end LatencyMeter
