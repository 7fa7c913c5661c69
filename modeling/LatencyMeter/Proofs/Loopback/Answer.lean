import LatencyMeter.Proofs.Loopback.Service

/-!
# What a host answers a measurement on a loopback path

A host that serves a measurement answers each request that the measurement may make. It
refuses nothing, it tells the count of sent messages as the ledger of the measurement has it,
and it goes on to serve the measurement. Messages are lost by one request only: the receive
thread is asked to stop when it has waited in vain and there are messages in its queue.
-/

namespace LatencyMeter

/-! ## Counters -/

namespace RoundTrip.Heard

variable {state : RoundTrip} {settings : PingSettings} {raised counted : Nat}
  {pickups : List Pickup}

theorem raiseTotal (heard : state.Heard settings raised counted pickups) :
    ({ state with flight := state.flight.raiseTotal } : RoundTrip).Heard settings (raised + 1)
      counted pickups := by
  refine { heard with total := ?_ }
  rw [Flight.total_raiseTotal, heard.total, UInt64.ofNat_add]
  rfl

theorem raiseOutstanding
    (heard : state.Heard settings raised counted pickups)
    (room : counted + 1 < 2 ^ 63) :
    ({ state with flight := state.flight.raiseOutstanding } : RoundTrip).Heard settings raised
      (counted + 1) pickups := by
  refine { heard with outstanding := ?_ }
  have outstanding := heard.outstanding
  rw [Flight.toInt_outstanding_raiseOutstanding _ (by omega), outstanding]
  omega

/-- The largest count of unconfirmed messages does not matter. -/
theorem raisePeak
    (heard : state.Heard settings raised counted pickups)
    (level : Int64) :
    ({ state with flight := state.flight.raisePeak level } : RoundTrip).Heard settings raised
      counted pickups :=
  { heard with }

end RoundTrip.Heard

namespace LoopbackPath

variable {path : LoopbackPath Listener} {course : Course}

/-- The path after the flight counters were changed. -/
def withFlight (path : LoopbackPath Listener) (change : Flight -> Flight) :
    LoopbackPath Listener :=
  { path with
    sink :=
      { path.sink with
        roundTrip :=
          { path.sink.roundTrip with flight := change path.sink.roundTrip.flight } } }

/-- The flight counters do not matter to the receive thread. -/
theorem Attended.withFlight
    (attended : path.Attended course)
    (change : Flight -> Flight) :
    (path.withFlight change).Attended course :=
  { attended with }

theorem Attended.withLedger
    (attended : path.Attended course)
    (ledger : Ledger) :
    path.Attended { course with ledger := ledger } :=
  { attended with }

end LoopbackPath

/-- A change of the flight counters of a host is one on its path. -/
theorem Host.receiver_mapFlight
    {host : Host}
    {path : LoopbackPath Listener}
    (receiver : host.receiver = some (.loopback path))
    (change : Flight -> Flight) :
    (host.mapFlight change).receiver = some (.loopback (path.withFlight change)) := by
  rw [mapFlight, mapRoundTrip, receiver]
  rfl

namespace Host.Serves

variable {host : Host} {settings : PingSettings} {course : Course} {pickups : List Pickup}

/-- No message has been refused. -/
theorem willing (serves : host.Serves settings course pickups) : course.Willing := by
  cases serves with
  | unopened receiver nothing none =>
      rw [nothing]
      exact ⟨[], rfl⟩
  | opened path receiver isOpen carries attended => exact ⟨_, carries.inTransit.handed_eq⟩

/-- An open path is a loopback path that carries the messages of the measurement. -/
theorem exists_path
    (serves : host.Serves settings course pickups)
    (isOpen : course ≠ Course.blank) :
    exists path : LoopbackPath Listener,
      host.receiver = some (.loopback path) ∧ course.opened = true ∧
        path.Carries settings course.ledger pickups (host.clock host.reads) ∧
        path.Attended course := by
  cases serves with
  | unopened receiver nothing none => exact absurd nothing isOpen
  | opened path receiver isOpen carries attended =>
      exact ⟨path, receiver, isOpen, carries, attended⟩

/-- The count of sent messages is the one of the ledger. -/
theorem total_flight (serves : host.Serves settings course pickups) :
    host.flight.total = UInt64.ofNat course.ledger.raised := by
  unfold Host.flight
  cases serves with
  | unopened receiver nothing none =>
      rw [receiver, nothing]
      rfl
  | opened path receiver isOpen carries attended =>
      rw [receiver]
      exact carries.heard.total

/-- Whatever else happens, a host goes on to serve a measurement. -/
theorem frame
    (serves : host.Serves settings course pickups)
    (cooperates : host.Cooperates)
    {later : Host}
    (receiver : later.receiver = host.receiver)
    (clock : later.clock = host.clock)
    (reads : host.reads ≤ later.reads) :
    later.Serves settings course pickups := by
  cases serves with
  | unopened unopened nothing none => exact .unopened (receiver.trans unopened) nothing none
  | opened path opened isOpen carries attended =>
      refine .opened path (receiver.trans opened) isOpen (carries.wait ?_) attended
      rw [clock]
      exact cooperates.clock _ _ reads

/-! ## Messages -/

variable (room : settings.messageCount < 2 ^ 63) (cooperates : host.Cooperates)

include room cooperates in
/-- Each request on the way to handing over a message is answered as it should be. -/
theorem answer_launching
    (serves : host.Serves settings course pickups)
    {request : Sending.Request}
    (launches : request.launches = true)
    (asks : settings.MayLaunch course request) :
    (host.answerSending request).2.Serves settings
      (course.after (.sending request) (host.answerSending request).1) pickups := by
  obtain ⟨isOpen, notClosed, _, left, _⟩ := asks.left launches
  have notBlank : course ≠ Course.blank := by
    rintro rfl
    contradiction
  obtain ⟨path, receiver, _, carries, attended⟩ := serves.exists_path notBlank
  -- The counters are raised before the message is handed over, so whatever the receive thread
  -- finds in the queue has been counted.
  have raised := asks.stands.raised
  have counted := asks.stands.counted
  cases request with
  | total | peak | wait | note => contradiction
  | raiseTotal =>
      change course.ledger.raised = course.ledger.handed.length + 0 at raised
      refine .opened (path.withFlight Flight.raiseTotal) ?_ isOpen
        { carries with
          heard := carries.heard.raiseTotal
          raised := Nat.le_succ_of_le carries.raised
          within := ?_ }
        ((attended.withFlight _).withLedger _)
      · exact Host.receiver_mapFlight receiver _
      · change course.ledger.raised + 1 ≤ settings.messageCount
        omega
  | raiseOutstanding =>
      change course.ledger.raised = course.ledger.handed.length + 1 at raised
      change course.ledger.counted = course.ledger.handed.length + 0 at counted
      refine .opened (path.withFlight Flight.raiseOutstanding) ?_ isOpen
        { carries with
          heard := carries.heard.raiseOutstanding (by omega)
          counted := Nat.le_succ_of_le carries.counted
          raised := ?_ }
        ((attended.withFlight _).withLedger _)
      · exact Host.receiver_mapFlight receiver _
      · change course.ledger.counted + 1 ≤ course.ledger.raised
        omega
  | raisePeak level =>
      exact .opened (path.withFlight (Flight.raisePeak level))
        (Host.receiver_mapFlight receiver _) isOpen
        { carries with heard := carries.heard.raisePeak level } (attended.withFlight _)
  | clock purpose =>
      cases purpose with
      | schedule | sample => contradiction
      | stamp =>
          have passes := cooperates.clock _ _ (Nat.le_succ host.reads)
          exact .opened path receiver isOpen
            { carries.wait passes with stamp := passes } (attended.withLedger _)
  | transmit message =>
      change course.ledger.counted = course.ledger.handed.length + 1 at counted
      have senderOpen : path.senderOpen = true := by rw [attended.senderOpen, notClosed]; rfl
      have notAsked := attended.not_stopRequested senderOpen
      have sent : host.answerSending (.transmit message) =
          (none, { host with
            receiver := some (.loopback { path with queue := path.queue ++ [message] }) }) := by
        change host.transmit message = _
        rw [Host.transmit, receiver]
        dsimp only
        rw [LoopbackPath.send, if_pos ⟨senderOpen, by simp [attended.not_ended senderOpen]⟩]
      have moved : LoopbackPath.Attended { path with queue := path.queue ++ [message] } course :=
        attended.move (attended.running senderOpen)
          (fun notWaiting _ =>
            (attended.stands notWaiting (LoopbackPath.lost_of_not_asked notAsked)).enqueue
              (attended.running senderOpen) _) rfl rfl
      rw [sent]
      refine .opened _ rfl isOpen
        { carries with
          inTransit := carries.inTransit.send
            ⟨_, carries.stamp, asks.described message rfl⟩
          counted := ?_ }
        (moved.withLedger _)
      change (course.ledger.handed ++ [_]).length ≤ course.ledger.counted
      rw [List.length_append, counted]
      exact Nat.le_refl _

include room cooperates in
/-- Each request of a sending loop is answered as it should be. -/
theorem answerSending
    (serves : host.Serves settings course pickups)
    {request : Sending.Request}
    (asks : settings.MayLaunch course request) :
    Stint.MayAnswer course.ledger request (host.answerSending request).1 ∧
      (host.answerSending request).2.Serves settings
        (course.after (.sending request) (host.answerSending request).1) pickups := by
  have credible : Stint.MayAnswer course.ledger request (host.answerSending request).1 := by
    cases request with
    | total => exact serves.total_flight
    | _ => trivial
  refine ⟨credible, ?_⟩
  cases launches : request.launches with
  | true => exact serves.answer_launching room cooperates launches asks
  | false =>
      rw [Course.after_sending, Ledger.after_of_idle _ launches]
      cases request with
      | raiseTotal | raiseOutstanding | raisePeak | transmit => contradiction
      | clock purpose => exact serves.frame cooperates rfl rfl (Nat.le_succ _)
      | total | peak | wait | note => exact serves.frame cooperates rfl rfl (Nat.le_refl _)

end Host.Serves

/-! ## All requests -/

/-- A host cooperates as long as its clock and what its report refuses are the same. -/
theorem Host.Cooperates.frame
    {host later : Host}
    (cooperates : host.Cooperates)
    (clock : later.clock = host.clock)
    (refusal : later.report.refusal = host.report.refusal) :
    later.Cooperates where
  clock := clock ▸ cooperates.clock
  report := refusal ▸ cooperates.report

/-- A report that refuses nothing is written. -/
theorem Host.Cooperates.print_eq
    {host : Host}
    (cooperates : host.Cooperates)
    (text : String) :
    host.print text =
      (none,
        { host with report := ⟨host.report.refusal, host.report.writes + 1, #[]⟩ }.keep
          [.report text]) := by
  rw [Host.print, Journal.write, cooperates.report]

/-- A sending loop changes neither the clock nor the report. -/
theorem Host.Cooperates.answerSending
    {host : Host}
    (cooperates : host.Cooperates)
    (request : Sending.Request) :
    (host.answerSending request).2.Cooperates := by
  cases request with
  | transmit message =>
      change (host.transmit message).2.Cooperates
      unfold Host.transmit
      split <;> exact cooperates.frame rfl rfl
  | _ => exact cooperates.frame rfl rfl

namespace Host.Serves

variable {host later : Host} {settings : PingSettings} {course : Course}
  {pickups : List Pickup} {request : Session.Request} {given : request.Answer}
variable (room : settings.messageCount < 2 ^ 63) (cooperates : host.Cooperates)

include room cooperates in
/-- Every request that a measurement may make is answered as it should be, unless it has to
wait. -/
theorem answer
    (loopback : settings.path = .loopback)
    (unbound : settings.senderCpu = none)
    (serves : host.Serves settings course pickups)
    (fine : course.trouble = false)
    (asks : settings.MayAsk course request)
    (answered : host.answer? request = some (given, later)) :
    course.MayAnswer request given ∧
      later.Cooperates ∧
      (course.after request given).trouble = false ∧
      later.Serves settings (course.after request given) pickups := by
  cases request with
  | reflect | openProbe | notification => exact asks.elim
  | bindThread core =>
      have bound : settings.senderCpu = some core := asks
      rw [unbound] at bound
      contradiction
  | sending request =>
      obtain ⟨rfl, rfl⟩ := Prod.mk.inj (Option.some.inj answered)
      obtain ⟨credible, further⟩ := serves.answerSending room cooperates asks
      exact ⟨credible, cooperates.answerSending request, fine, further⟩
  | print text =>
      have written := (cooperates.print_eq text).symm.trans (Option.some.inj answered)
      obtain ⟨rfl, rfl⟩ := Prod.mk.inj written
      exact ⟨trivial, cooperates.frame rfl rfl, fine,
        serves.frame cooperates rfl rfl (Nat.le_refl _)⟩
  | listen path cpu histogram =>
      obtain ⟨notOpen, _, rfl, _, created⟩ := asks
      rw [loopback] at answered
      obtain ⟨rfl, rfl⟩ := Prod.mk.inj (Option.some.inj answered)
      cases serves with
      | opened path receiver isOpen => rw [isOpen] at notOpen; contradiction
      | unopened receiver nothing none =>
          subst nothing none
          exact ⟨trivial, cooperates.frame rfl rfl, rfl,
            .opened _ rfl rfl (.start created _ _) (.start _)⟩
  | resetSamples =>
      obtain ⟨isOpen, _, _, warm⟩ := asks
      have notBlank : course ≠ Course.blank := by rintro rfl; contradiction
      obtain ⟨path, receiver, _, carries, attended⟩ := serves.exists_path notBlank
      obtain ⟨rfl, rfl⟩ := Prod.mk.inj (Option.some.inj answered)
      -- Echoes of the warmup may still be on their way, but none of them leaves a sample.
      have forgot := carries.heard.resetSamples (warm ▸ carries.length_pickups_le)
      have same : (host.mapRoundTrip RoundTrip.resetSamples).receiver = some (.loopback path) := by
        rw [Host.mapRoundTrip, receiver]
        change some (Receiver.loopback { path with
          sink := { path.sink with roundTrip := path.sink.roundTrip.resetSamples } }) = _
        rw [forgot]
      exact ⟨trivial, cooperates.frame rfl rfl, fine,
        .opened path same isOpen { carries with } { attended with }⟩
  | close =>
      have isOpen : course.opened = true := asks
      have notBlank : course ≠ Course.blank := by rintro rfl; contradiction
      obtain ⟨path, receiver, _, carries, attended⟩ := serves.exists_path notBlank
      change some host.close = _ at answered
      rw [Host.close, receiver] at answered
      obtain ⟨rfl, rfl⟩ := Prod.mk.inj (Option.some.inj answered)
      exact ⟨trivial, cooperates.frame rfl rfl, fine,
        .opened path.close rfl isOpen { carries with }
          { attended with
            stands := fun notWaiting nothing => (attended.stands notWaiting nothing).close
            senderOpen := rfl
            stopped := fun _ => rfl }⟩
  | stop =>
      have closed : course.closed = true := by
        rcases asks with closed | ⟨fault, refused⟩
        · exact closed
        · exact absurd serves.willing refused.not_willing
      have notBlank : course ≠ Course.blank := by rintro rfl; contradiction
      obtain ⟨path, receiver, isOpen, carries, attended⟩ := serves.exists_path notBlank
      obtain ⟨rfl, rfl⟩ := Prod.mk.inj (Option.some.inj answered)
      refine ⟨trivial, cooperates.frame rfl rfl, fine,
        .opened path.requestStop ?_ isOpen { carries with }
          { attended with
            stands := fun notWaiting nothing =>
              attended.stands notWaiting (LoopbackPath.lost_of_requestStop nothing)
            stopRequested := rfl
            stopped := fun _ => closed }⟩
      rw [receiver]
      rfl
  | join =>
      have stopped : course.stopped = true := asks
      have notBlank : course ≠ Course.blank := by rintro rfl; contradiction
      obtain ⟨path, receiver, isOpen, carries, attended⟩ := serves.exists_path notBlank
      rw [Host.answer?, receiver] at answered
      obtain ⟨fault, joined, both⟩ := Option.map_eq_some_iff.mp answered
      obtain ⟨rfl, rfl⟩ := Prod.mk.inj both
      obtain ⟨finished, rfl⟩ := attended.finished_of_joined joined
      exact ⟨trivial, cooperates, fine,
        .opened path receiver isOpen { carries with }
          { attended with
            joined := fun _ => finished
            counts := fun counts told => ⟨rfl, (attended.counts counts told).2⟩
            histogram := fun histogram told => ⟨rfl, (attended.histogram histogram told).2⟩ }⟩
  | counts =>
      have joined : course.joined = true := asks
      have notBlank : course ≠ Course.blank := by rintro rfl; contradiction
      obtain ⟨path, receiver, isOpen, carries, attended⟩ := serves.exists_path notBlank
      obtain ⟨rfl, rfl⟩ := Prod.mk.inj (Option.some.inj answered)
      refine ⟨trivial, cooperates.frame rfl rfl, fine,
        .opened path receiver isOpen { carries with } { attended with counts := ?_ }⟩
      rintro counts ⟨rfl⟩
      refine ⟨joined, ?_⟩
      rw [receiver]
      rfl
  | histogram =>
      have joined : course.joined = true := asks
      have notBlank : course ≠ Course.blank := by rintro rfl; contradiction
      obtain ⟨path, receiver, isOpen, carries, attended⟩ := serves.exists_path notBlank
      obtain ⟨rfl, rfl⟩ := Prod.mk.inj (Option.some.inj answered)
      refine ⟨trivial, cooperates.frame rfl rfl, fine,
        .opened path receiver isOpen { carries with } { attended with histogram := ?_ }⟩
      rintro histogram ⟨rfl⟩
      refine ⟨joined, ?_⟩
      rw [receiver]
      rfl

end Host.Serves

/-! ## Lost messages -/

namespace Host

variable {host later : Host}

/-- What is lost is lost on the path of the receive thread. -/
theorem lost_eq_of_receiver (receiver : later.receiver = host.receiver) :
    later.lost = host.lost := by
  unfold lost
  rw [receiver]

/-- A change of the measurement does not matter to what is lost. -/
theorem lost_mapRoundTrip (host : Host) (change : RoundTrip -> RoundTrip) :
    (host.mapRoundTrip change).lost = host.lost := by
  unfold lost mapRoundTrip
  cases host.receiver with
  | none => rfl
  | some thread => cases thread <;> rfl

/-- The messages that are lost once a request was answered. -/
def lostAfter (host : Host) : Session.Request -> List Payload
  | .stop => if host.waitedInVain then host.queue else host.lost
  | _ => host.lost

namespace Serves

variable {settings : PingSettings} {course : Course} {pickups : List Pickup}
  {request : Session.Request} {given : request.Answer}

/-- A message that is sent is not lost. -/
theorem lost_transmit
    (serves : host.Serves settings course pickups)
    (message : Payload) :
    (host.transmit message).2.lost = host.lost := by
  cases serves with
  | unopened receiver =>
      unfold transmit
      rw [receiver]
      rfl
  | opened path receiver isOpen carries attended =>
      unfold transmit lost
      rw [receiver]
      dsimp only
      unfold LoopbackPath.send
      split
      · next accepted =>
        -- The path is open, so its receive thread was not asked to stop.
        have notAsked := attended.not_stopRequested accepted.1
        rw [LoopbackPath.lost_of_not_asked notAsked]
        exact LoopbackPath.lost_of_not_asked notAsked
      · rfl

/-- Asking the receive thread to stop loses what is in the queue if it has waited in vain. -/
theorem lost_stop (serves : host.Serves settings course pickups) :
    ({ host with receiver := host.receiver.map Receiver.requestStop } : Host).lost =
      host.lostAfter .stop := by
  cases serves with
  | unopened receiver =>
      unfold lostAfter waitedInVain queue lost
      rw [receiver]
      rfl
  | opened path receiver isOpen carries attended =>
      unfold lostAfter waitedInVain queue lost
      rw [receiver]
      change path.requestStop.lost = if path.waitedInVain then path.queue else path.lost
      cases point : path.point with
      | crashed cause => exact absurd point (attended.not_crashed cause)
      | finished =>
          rw [attended.lost_eq_queue point, ite_self]
          unfold LoopbackPath.lost LoopbackPath.requestStop
          rw [point]
          rfl
      | idle | receiving | holding =>
          unfold LoopbackPath.lost LoopbackPath.waitedInVain LoopbackPath.requestStop
          rw [point]
          rfl

/-- No request but the one to stop loses a message. -/
theorem lost_answer
    (serves : host.Serves settings course pickups)
    (asks : settings.MayAsk course request)
    (answered : host.answer? request = some (given, later)) :
    later.lost = host.lostAfter request := by
  cases request with
  | reflect | openProbe | notification => exact asks.elim
  | stop =>
      obtain ⟨rfl, rfl⟩ := Prod.mk.inj (Option.some.inj answered)
      exact serves.lost_stop
  | sending request =>
      obtain ⟨rfl, rfl⟩ := Prod.mk.inj (Option.some.inj answered)
      cases request with
      | transmit message => exact serves.lost_transmit message
      | raiseTotal | raiseOutstanding | raisePeak => exact lost_mapRoundTrip _ _
      | clock | total | peak | wait | note => exact lost_eq_of_receiver rfl
  | listen path cpu histogram =>
      obtain ⟨notOpen, _⟩ := asks
      obtain ⟨rfl, rfl⟩ := Prod.mk.inj (Option.some.inj answered)
      cases serves with
      | opened path receiver isOpen => rw [isOpen] at notOpen; contradiction
      | unopened receiver =>
          have nothing : host.lost = [] := by rw [lost, receiver]
          change (host.listen path cpu histogram).2.lost = host.lost
          unfold listen
          split
          · exact nothing.symm
          · split
            · rfl
            · exact nothing.symm
  | resetSamples =>
      obtain ⟨rfl, rfl⟩ := Prod.mk.inj (Option.some.inj answered)
      exact lost_mapRoundTrip _ _
  | close =>
      obtain ⟨rfl, rfl⟩ := Prod.mk.inj (Option.some.inj answered)
      change host.close.2.lost = host.lost
      unfold close
      split
      · next path receiver =>
        unfold lost
        rw [receiver]
        rfl
      · rfl
  | join =>
      cases receiver : host.receiver with
      | none =>
          rw [answer?, receiver] at answered
          obtain ⟨rfl, rfl⟩ := Prod.mk.inj (Option.some.inj answered)
          rfl
      | some thread =>
          rw [answer?, receiver] at answered
          obtain ⟨_, _, both⟩ := Option.map_eq_some_iff.mp answered
          obtain ⟨rfl, rfl⟩ := Prod.mk.inj both
          rfl
  | print text =>
      obtain ⟨rfl, rfl⟩ := Prod.mk.inj (Option.some.inj answered)
      change (host.print text).2.lost = host.lost
      refine lost_eq_of_receiver ?_
      unfold print
      split <;> rfl
  | bindThread | counts | histogram =>
      obtain ⟨rfl, rfl⟩ := Prod.mk.inj (Option.some.inj answered)
      exact lost_eq_of_receiver rfl

end Serves
end Host
end LatencyMeter
