import LatencyMeter.Proofs.Header.Codec
import LatencyMeter.Proofs.Session.Phases

/-!
# The desk at which messages are written

All messages of a measurement are written into one buffer, each over the one before it. The
desk keeps that buffer as the last message left it, the number that was told for the next
message and the time that was read for it. Beginning with a buffer that has room for a header,
every header is written with success, whatever the requests of a measurement are answered with,
and the measurement fails for no reason that lies in its settings.
-/

namespace LatencyMeter

/-- The cause of a failure lies in the settings: a value that a part of the tool refuses, or
messages without room for a header. -/
def Failure.BlamesSettings (failure : Failure) : Prop :=
  match failure.cause with
  | .config _ | .header _ | .histogram (.invalidGeometry _ _) => True
  | _ => False

theorem Failure.not_blamesSettings_of_transport
    {failure : Failure}
    {fault : TransportFault}
    (cause : failure.cause = .transport fault) :
    ¬ failure.BlamesSettings := by
  unfold BlamesSettings
  rw [cause]
  exact id

/-- What messages are written with. -/
structure Desk where
  /-- The buffer as the last message left it. -/
  buffer : Payload
  number : UInt64
  stamp : UInt64

namespace Desk

open Protocol

/-- The desk of a measurement that has written nothing. -/
def cleared (settings : PingSettings) : Desk := ⟨List.replicate settings.length.toNat 0, 0, 0⟩

/-- The desk after one more request of a sending loop was answered. -/
def after (desk : Desk) : (request : Sending.Request) -> request.Answer -> Desk
  | .total, number => { desk with number := number }
  | .clock .stamp, time => { desk with stamp := time }
  | .transmit message, _ => { desk with buffer := message }
  | _, _ => desk

/-- The header of the next message, before the message is stamped. -/
def header (desk : Desk) (timestamp : Bool) : Header :=
  ⟨desk.number, 0, Sending.flagsFor timestamp⟩

/-- A message is written at the desk: its header can be encoded into the buffer, and so can its
stamp, if it has one. -/
def Writes (desk : Desk) (message : Payload) : Prop :=
  exists timestamp encoded,
    (desk.header timestamp).encodeInto desk.buffer = .ok encoded ∧
      if timestamp then Header.stamp? desk.stamp encoded = some message else encoded = message

/-- Every message that a sending loop hands over is written at the desk. -/
abbrev loopProtocol : Protocol Sending.Request.Answer Desk where
  after := after
  mayAsk desk request := forall message, request = .transmit message -> desk.Writes message
  mayAnswer _ _ _ := True
  mayStop _ := True

/-- The desk after one more request of a session was answered. -/
def afterSession (desk : Desk) : (request : Session.Request) -> request.Answer -> Desk
  | .sending request, answer => desk.after request answer
  | _, _ => desk

/-- Every message that a session hands over is written at the desk. -/
abbrev protocol : Protocol Session.Request.Answer Desk where
  after := afterSession
  mayAsk desk request :=
    forall message, request = .sending (.transmit message) -> desk.Writes message
  mayAnswer _ _ _ := True
  mayStop _ := True

variable {desk : Desk}

/-! ## Sending loops -/

/-- A request that hands nothing over may be made. -/
theorem asks_of_silent
    {request : Sending.Request}
    (silent : forall message, request ≠ .transmit message) :
    loopProtocol.mayAsk desk request :=
  fun message transmits => absurd transmits (silent message)

/-- A message is written at the desk and left in its buffer. -/
theorem follows_launch
    (timestamp : Bool)
    {buffer : Buffer}
    (same : desk.buffer = buffer.bytes) :
    loopProtocol.Follows (fun later result => later.buffer = result.2.bytes) desk
      (Sending.launch timestamp buffer) := by
  refine .ask (asks_of_silent (by simp)) fun number _ => ?_
  refine .ask (asks_of_silent (by simp)) fun _ _ => ?_
  refine .ask (asks_of_silent (by simp)) fun level _ => ?_
  refine .ask (asks_of_silent (by simp)) fun _ _ => ?_
  have encoded (header : Header) :
      header.encodeInto desk.buffer = .ok (buffer.write header).bytes :=
    same ▸ Header.encodeInto_of_fits buffer.fits
  cases timestamp with
  | true =>
      refine .ask (asks_of_silent (by simp)) fun time _ => ?_
      refine .ask ?_ fun fault _ => rfl
      rintro message ⟨rfl⟩
      exact ⟨true, _, encoded _, Header.stamp?_of_fits (buffer.write _).fits⟩
  | false =>
      refine .ask ?_ fun fault _ => rfl
      rintro message ⟨rfl⟩
      exact ⟨false, _, encoded _, rfl⟩

/-- Where a sending loop leaves the desk: the buffer is the one on the desk, and if the loop has
failed, the transport is to blame. -/
def Left (desk : Desk) (result : Option Failure × Pacer.Progress) : Prop :=
  desk.buffer = result.2.buffer.bytes ∧
    forall failure, result.1 = some failure -> exists fault, failure.cause = .transport fault

/-- A loop that is complete leaves its buffer on the desk. -/
theorem Left.complete
    {progress : Pacer.Progress}
    (same : desk.buffer = progress.buffer.bytes) :
    desk.Left (none, progress) :=
  ⟨same, by simp⟩

/-- One more message is launched, and the loop goes on or reports why it was refused. -/
theorem follows_launch_or_refused
    {progress : Pacer.Progress}
    (same : desk.buffer = progress.buffer.bytes)
    (linkName : String)
    (stage : Stage)
    (timestamp : Bool)
    {goesOn : Pacer.Progress -> Sending (Option Failure × Pacer.Progress)}
    (continues : forall later buffer, later.buffer = buffer.bytes ->
      loopProtocol.Follows Left later
        (goesOn { progress with sent := progress.sent + 1, buffer := buffer })) :
    loopProtocol.Follows Left desk
      (Sending.launch timestamp progress.buffer >>= fun result =>
        match result.1 with
        | some fault =>
            Sending.refused linkName stage progress.sent progress.largest fault >>= fun failure =>
              pure (some failure, { progress with buffer := result.2 })
        | none =>
            goesOn { progress with sent := progress.sent + 1, buffer := result.2 }) := by
  refine (follows_launch timestamp same).bind ?_
  rintro later ⟨fault, buffer⟩ same
  cases fault with
  | none => exact continues later buffer same
  | some fault =>
      refine .ask (asks_of_silent (by simp)) fun peak _ => ?_
      refine .ask (asks_of_silent (by simp)) fun _ _ => ⟨same, ?_⟩
      rintro _ ⟨rfl⟩
      exact ⟨fault, rfl⟩

theorem follows_burst
    (linkName : String)
    (timestamp : Bool)
    (remaining : Nat)
    {progress : Pacer.Progress}
    (same : desk.buffer = progress.buffer.bytes) :
    loopProtocol.Follows Left desk (Pacer.burst linkName timestamp remaining progress) := by
  induction remaining generalizing desk progress with
  | zero => exact .complete same
  | succ remaining hypothesis =>
      exact follows_launch_or_refused same linkName .pacedLoop timestamp
        fun later buffer same => hypothesis same

theorem follows_catchUpFrom
    (linkName : String)
    (plan : Plan)
    (start : UInt64)
    (steps : Nat)
    (now : UInt64)
    {progress : Pacer.Progress}
    (same : desk.buffer = progress.buffer.bytes) :
    loopProtocol.Follows Left desk
      (Pacer.catchUpFrom linkName plan start steps now progress) := by
  induction steps generalizing desk now progress with
  | zero =>
      unfold Pacer.catchUpFrom
      split
      · trivial
      · exact .complete same
  | succ steps hypothesis =>
      unfold Pacer.catchUpFrom
      split
      · extract_lets due missing largest
        have looks : desk.buffer = { progress with largest := largest }.buffer.bytes := same
        refine (follows_burst linkName plan.timestamp missing.toNat looks).bind ?_
        rintro later ⟨failure, progress⟩ ⟨same, blamed⟩
        cases failure with
        | none => exact .ask (asks_of_silent (by simp)) fun now _ => hypothesis now same
        | some failure => exact ⟨same, blamed⟩
      · exact .complete same

theorem follows_delayedFrom
    (linkName : String)
    (delay : Duration)
    (plan : Plan)
    (remaining : Nat)
    {progress : Pacer.Progress}
    (same : desk.buffer = progress.buffer.bytes) :
    loopProtocol.Follows Left desk
      (Pacer.delayedFrom linkName delay plan remaining progress) := by
  induction remaining generalizing desk progress with
  | zero => exact .complete same
  | succ remaining hypothesis =>
      unfold Pacer.delayedFrom
      extract_lets launches
      have launched : loopProtocol.Follows Left desk (launches ()) :=
        follows_launch_or_refused same linkName .delayedLoop plan.timestamp
          fun later buffer same => hypothesis same
      split
      · exact .ask (asks_of_silent (by simp)) fun _ _ => launched
      · exact launched

/-- Where a run of a pacer leaves the desk: the buffer is the one on the desk, and if the run has
failed, the transport is to blame. -/
def Rests (desk : Desk) (result : Except Failure UInt64 × Pacer) : Prop :=
  desk.buffer = result.2.buffer.bytes ∧
    forall failure, result.1 = .error failure -> exists fault, failure.cause = .transport fault

/-- A run of a pacer whose buffer is on the desk leaves its buffer there, and fails only if the
transport refuses a message. -/
theorem follows_run
    (linkName : String)
    (steps : Nat)
    (plan : Plan)
    {pacer : Pacer}
    (same : desk.buffer = pacer.buffer.bytes) :
    loopProtocol.Follows Rests desk (pacer.run linkName steps plan) := by
  have looped : loopProtocol.Follows Left desk (pacer.loop linkName steps plan) := by
    unfold Pacer.loop
    cases pacer.pacing with
    | catchUp =>
        exact .ask (asks_of_silent (by simp)) fun start _ =>
          follows_catchUpFrom linkName plan start steps start same
    | delayed delay => exact follows_delayedFrom linkName delay plan _ same
  refine looped.bind ?_
  rintro later ⟨failure, progress⟩ ⟨same, blamed⟩
  cases failure with
  | none => exact .ask (asks_of_silent (by simp)) fun _ _ => ⟨same, by simp⟩
  | some failure =>
      refine ⟨same, ?_⟩
      rintro _ ⟨rfl⟩
      exact blamed failure rfl

/-! ## Sessions -/

/-- A session may end at the desk in a success, or in a failure that is not due to its settings. -/
abbrev Blameless (returns : Desk -> α -> Prop) : Desk -> Except Failure α -> Prop :=
  Outcome returns fun _ failure => ¬ failure.BlamesSettings

/-- A request that writes nothing leaves the desk as it is. -/
theorem follows_ask
    (request : Session.Request)
    (silent : forall message, request ≠ .sending (.transmit message))
    (idle : forall answer, desk.afterSession request answer = desk) :
    protocol.Follows (Blameless fun later _ => later = desk) desk (Session.ask request).run :=
  ⟨fun message transmits => absurd transmits (silent message), fun answer _ => idle answer⟩

/-- A note of the sending thread leaves the desk as it is. -/
theorem follows_note (entry : Log.Entry) :
    protocol.Follows (Blameless fun later _ => later = desk) desk (Session.note entry).run :=
  ⟨nofun, fun _ _ => rfl⟩

theorem follows_notes (entries : List Log.Entry) :
    protocol.Follows (Blameless fun later _ => later = desk) desk (Session.notes entries).run := by
  induction entries with
  | nil => rfl
  | cons entry rest hypothesis =>
      exact Follows.bindIdle (follows_note entry) fun _ => hypothesis

/-- A refusal of the transport is not due to the settings. -/
theorem follows_refuse (fault : Option TransportFault) :
    protocol.Follows (Blameless fun later _ => later = desk) desk (Session.refuse fault).run := by
  cases fault with
  | none => rfl
  | some fault => exact Failure.not_blamesSettings_of_transport rfl

theorem follows_print (text : String) :
    protocol.Follows (Blameless fun later _ => later = desk) desk (Session.print text).run := by
  refine ⟨nofun, fun reason _ => ?_⟩
  cases reason with
  | none => rfl
  | some reason => exact id

/-- A core that cannot be had is not due to the settings. -/
theorem follows_bindThread (cpu : UInt64) :
    protocol.Follows (Blameless fun later _ => later = desk) desk (Session.bindThread cpu).run := by
  refine ⟨nofun, fun accepted _ => ?_⟩
  cases accepted with
  | true => rfl
  | false => exact id

/-- A session seen from outside one more stage ends where it ended. -/
theorem follows_within
    {session : Session α}
    {stage : Stage}
    {returns : Desk -> α -> Prop}
    (inside : protocol.Follows (Blameless returns) desk session.run) :
    protocol.Follows (Blameless returns) desk (Session.within stage session).run := by
  refine inside.bind ?_
  rintro later (failure | value) holds <;> exact holds

/-- A run of a plan leaves its buffer on the desk. -/
theorem follows_runPlan
    (settings : PingSettings)
    (steps : Nat)
    (plan : Plan)
    {pacer : Pacer}
    (same : desk.buffer = pacer.buffer.bytes) :
    protocol.Follows (Blameless fun later result => later.buffer = result.2.buffer.bytes) desk
      (settings.runPlan steps plan pacer).run := by
  have translated := (follows_run settings.path.linkName steps plan same).translate protocol
    (fun request => Program.request (Session.Request.sending request)) id
    (fun desk request asks => ⟨by rintro message ⟨rfl⟩; exact asks message rfl,
      fun _ _ => ⟨trivial, rfl⟩⟩)
    fun _ _ => trivial
  refine Follows.bindExcept Rests (translated.bind ?_) ?_
  · rintro _ result ⟨later, rfl, left⟩
    exact left
  rintro later ⟨result, left⟩ ⟨same, blamed⟩
  cases result with
  | ok count => exact same
  | error failure =>
      obtain ⟨fault, cause⟩ := blamed failure rfl
      exact Failure.not_blamesSettings_of_transport cause

theorem follows_prime
    (settings : PingSettings)
    (steps : Nat)
    {pacer : Pacer}
    (same : desk.buffer = pacer.buffer.bytes) :
    protocol.Follows (Blameless fun later left => later.buffer = left.buffer.bytes) desk
      (settings.prime steps pacer).run := by
  unfold PingSettings.prime
  split
  · refine Follows.bindIdle (follows_note _) fun _ => ?_
    exact Follows.bindExcept _ (follows_runPlan settings steps _ same)
      fun later result same => same
  · exact same

theorem follows_warmUp
    (settings : PingSettings)
    (steps : Nat)
    {pacer : Pacer}
    (same : desk.buffer = pacer.buffer.bytes) :
    protocol.Follows (Blameless fun later left => later.buffer = left.buffer.bytes) desk
      (settings.warmUp steps pacer).run := by
  unfold PingSettings.warmUp
  split
  · refine Follows.bindIdle (follows_note _) fun _ => ?_
    exact Follows.bindExcept _ (follows_runPlan settings steps _ same)
      fun later result same => same
  · exact same

/-- From a cleared desk on all messages are written with success. -/
theorem follows_sendAll
    {settings : PingSettings}
    (length : Header.size ≤ settings.length.toNat)
    (steps : Nat) :
    protocol.Follows (Blameless fun _ _ => True) (cleared settings)
      (settings.sendAll steps).run := by
  have created : Pacer.create settings.pacing settings.length =
      .ok ⟨settings.pacing, Buffer.zeroed settings.length.toNat length, 0⟩ := dif_pos length
  unfold PingSettings.sendAll
  refine Follows.bindIdle (follows_note _) fun _ => ?_
  rw [created]
  refine Follows.bindExcept (fun later (pacer : Pacer) =>
    later.buffer = pacer.buffer.bytes) rfl ?_
  intro later pacer same
  refine Follows.bindExcept _ (follows_prime settings steps same) ?_
  intro later pacer same
  refine Follows.bindIdle
    (follows_ask (.sending (.wait settings.pause)) nofun fun _ => rfl) fun _ => ?_
  refine Follows.bindExcept _ (follows_warmUp settings steps same) ?_
  intro later pacer same
  refine Follows.bindIdle (follows_ask .resetSamples nofun fun _ => rfl) fun _ => ?_
  refine Follows.bindIdle
    (follows_ask (.sending (.clock .schedule)) nofun fun _ => rfl) fun start => ?_
  refine Follows.bindExcept _ (follows_runPlan settings steps _ same) ?_
  rintro later ⟨count, pacer⟩ same
  refine Follows.bindIdle
    (follows_ask (.sending (.clock .schedule)) nofun fun _ => rfl) fun finish => ?_
  extract_lets closes
  have closed : protocol.Follows (Blameless fun _ _ => True) later (closes ()).run := by
    refine Follows.bindExcept (fun _ _ => True) (follows_within ?_) fun _ _ _ => trivial
    refine Follows.bindIdle (follows_ask _ nofun fun _ => rfl) fun fault => ?_
    exact (follows_refuse fault).weakenReturn fun _ _ _ => trivial
  split
  · exact Follows.bindIdle
      (follows_ask (.sending (.wait settings.linger)) nofun fun _ => rfl) fun _ => closed
  · exact closed

theorem follows_besideReceiver
    {session : Session α}
    {returns : Desk -> α -> Prop}
    (beside : protocol.Follows (Blameless returns) desk session.run) :
    protocol.Follows (Blameless returns) desk (Session.besideReceiver session).run := by
  refine Follows.handle beside ?_
  intro later failure blameless
  have abandoned : protocol.Follows (Blameless fun last _ => last = later) later
      Session.abandonReceiver.run := by
    refine Follows.bindIdle (follows_ask _ nofun fun _ => rfl) fun _ => ?_
    refine Follows.bindIdle (follows_ask _ nofun fun _ => rfl) fun fault => ?_
    cases fault with
    | none => rfl
    | some fault => exact follows_note _
  exact Follows.bindIdle abandoned fun _ => blameless

theorem follows_stopReceiver :
    protocol.Follows (Blameless fun later _ => later = desk) desk Session.stopReceiver.run := by
  refine follows_within
    (Follows.bindIdle (follows_ask _ nofun fun _ => rfl) fun _ => ?_)
  refine Follows.bindIdle (follows_ask _ nofun fun _ => rfl) fun fault => ?_
  exact follows_refuse fault

theorem follows_report (sent : PingSettings.Sent) :
    protocol.Follows (Blameless fun _ _ => True) desk (PingSettings.report sent).run := by
  unfold PingSettings.report
  refine Follows.bindIdle (follows_ask _ nofun fun _ => rfl) fun counts => ?_
  split
  · exact id
  refine Follows.bindIdle (follows_notes _) fun _ => ?_
  refine Follows.bindIdle (follows_ask _ nofun fun _ => rfl) fun peak => ?_
  refine Follows.bindIdle (follows_ask _ nofun fun _ => rfl) fun histogram => ?_
  refine Follows.bindIdle (follows_print _) fun _ => ?_
  refine Follows.bindIdle (follows_print _) fun _ => ?_
  refine Follows.bindIdle (follows_print _) fun _ => ?_
  refine Follows.bindIdle (follows_note _) fun _ => ?_
  trivial

theorem follows_listen (settings : PingSettings) (histogram : Histogram) :
    protocol.Follows (Blameless fun later _ => later = desk) desk
      (settings.listen histogram).run := by
  unfold PingSettings.listen
  refine Follows.bindIdle (follows_ask _ nofun fun _ => rfl) fun fault => ?_
  cases settings.path with
  | loopback => exact follows_refuse fault
  | datagrams endpoint =>
      exact Follows.bindIdle (follows_within (follows_refuse fault))
        fun _ => follows_notes _

/-- Whatever a measurement with usable settings is answered, it writes all its messages with
success and fails for no reason that lies in its settings. -/
theorem follows_session
    {settings : PingSettings}
    (usable : settings.Usable)
    (steps : Nat) :
    protocol.Follows (Blameless fun _ _ => True) (cleared settings)
      (settings.session steps).run := by
  obtain ⟨histogram, created⟩ := usable.histogram
  unfold PingSettings.session
  refine Follows.bindIdle (follows_print _) fun _ => ?_
  have allocated : protocol.Follows (Blameless fun later _ => later = cleared settings)
      (cleared settings) (Session.createHistogram settings.geometry).run := by
    unfold Session.createHistogram
    rw [created]
    rfl
  refine Follows.bindIdle allocated fun histogram => ?_
  extract_lets goesOn
  have goes : protocol.Follows (Blameless fun _ _ => True) (cleared settings) (goesOn ()).run := by
    refine Follows.bindIdle (follows_listen settings histogram) fun _ => ?_
    refine Follows.bindExcept _
      (follows_besideReceiver (follows_sendAll usable.length steps)) ?_
    rintro later sent _
    exact Follows.bindIdle follows_stopReceiver fun _ => follows_report sent
  split
  · exact goes
  · exact Follows.bindIdle (follows_within (follows_bindThread _)) fun _ => goes

end Desk
end LatencyMeter
