import LatencyMeter.Proofs.Pacer.Campaign
import LatencyMeter.Proofs.Pacer.Filler
import Mathlib.Data.List.Forall2

/-!
# Errands

What a pacer hands over is settled before it reads its clock: so many messages of a length,
numbered on from the count of sent messages, until the transport refuses one. The clock
settles only when the messages leave and which send times they carry. An errand is a run of
a plan seen in this way, and its fate is the messages that are delivered, with the refused
one, if there is one.

A loop carries out an errand if what it hands over is the fate of the errand up to send
times, and if it reports the refusal, or all messages as sent. Every loop that launches a
message and goes on only if it was accepted carries out an errand of one message more than
what it goes on with.
-/

namespace LatencyMeter

/-- What is alike to the same items in two lists is alike in both. -/
theorem forall₂_of_common
    {alike : α -> α -> Prop}
    {left middle right : List α}
    (first : List.Forall₂ alike left middle)
    (second : List.Forall₂ alike right middle)
    (join : forall left middle right, alike left middle -> alike right middle ->
      alike left right) :
    List.Forall₂ alike left right := by
  induction first generalizing right with
  | nil =>
      cases second
      exact .nil
  | cons head _ hypothesis =>
      cases second with
      | cons other rest => exact .cons (join _ _ _ head other) (hypothesis rest)

namespace Payload

/-- Two messages agree outside the send times in their headers, and everywhere if messages
are not stamped. -/
structure Alike (timestamp : Bool) (left right : Payload) : Prop where
  length : left.length = right.length
  before : left.take Header.stampOffset = right.take Header.stampOffset
  behind : left.drop (Header.stampOffset + 8) = right.drop (Header.stampOffset + 8)
  unstamped : timestamp = false -> left = right

theorem Alike.join
    {timestamp : Bool}
    {left middle right : Payload}
    (first : Alike timestamp left middle)
    (second : Alike timestamp right middle) :
    Alike timestamp left right where
  length := first.length.trans second.length.symm
  before := first.before.trans second.before.symm
  behind := first.behind.trans second.behind.symm
  unstamped plain := (first.unstamped plain).trans (second.unstamped plain).symm

/-- Messages are alike if their headers differ in the send times only, and only if messages
are stamped. -/
theorem alike_of_headers
    {timestamp : Bool}
    {left right : Header}
    (sameNumber : left.number = right.number)
    (sameFlags : left.flags = right.flags)
    (unstamped : timestamp = false -> left = right)
    (filler : Payload) :
    Alike timestamp (left.bytes ++ filler) (right.bytes ++ filler) := by
  have split (header : Header) :
      header.bytes ++ filler =
        (ofNumber 8 header.number.toNat ++ ofNumber 8 header.sentAt.toNat) ++
          (ofNumber 4 header.flags.toNat ++ filler) := by
    simp only [Header.bytes, List.append_assoc]
  have number (header : Header) :
      (ofNumber 8 header.number.toNat).length = Header.stampOffset :=
    length_ofNumber 8 _
  have front (header : Header) :
      (ofNumber 8 header.number.toNat ++ ofNumber 8 header.sentAt.toNat).length =
        Header.stampOffset + 8 := by
    simp [Header.stampOffset]
  refine ⟨?_, ?_, ?_, fun plain => congrArg (Header.bytes · ++ filler) (unstamped plain)⟩
  · simp
  · rw [split, split, List.append_assoc, List.append_assoc,
      List.take_left' (number left), List.take_left' (number right), sameNumber]
  · rw [split, split, List.drop_left' (front left), List.drop_left' (front right), sameFlags]

end Payload

/-! ## Fates -/

/-- What becomes of an errand. -/
structure Fate where
  delivered : List Payload
  /-- The message that the transport refused, and why. -/
  refusal : Option (Payload × TransportFault)

namespace Fate

/-- What the errand hands over. -/
def handovers (fate : Fate) : List Handover :=
  fate.delivered.map Handover.accepted ++
    fate.refusal.toList.map fun refused => ⟨refused.1, some refused.2⟩

/-- Two fates are the same up to send times. -/
structure Alike (timestamp : Bool) (left right : Fate) : Prop where
  delivered : List.Forall₂ (Payload.Alike timestamp) left.delivered right.delivered
  refusal : Option.Rel
    (fun first second => first.1.Alike timestamp second.1 ∧ first.2 = second.2)
    left.refusal right.refusal

/-- What becomes of two errands of which the first delivers all its messages. -/
def andThen (first second : Fate) : Fate := ⟨first.delivered ++ second.delivered, second.refusal⟩

variable {timestamp : Bool} {left middle right : Fate}

theorem Alike.join
    (first : Alike timestamp left middle)
    (second : Alike timestamp right middle) :
    Alike timestamp left right where
  delivered :=
    forall₂_of_common first.delivered second.delivered fun _ _ _ => Payload.Alike.join
  refusal := by
    have one := first.refusal
    have other := second.refusal
    generalize left.refusal = ofLeft at one ⊢
    generalize middle.refusal = ofMiddle at one other
    generalize right.refusal = ofRight at other ⊢
    cases one with
    | none =>
        cases other
        exact .none
    | some same =>
        cases other with
        | some too => exact .some ⟨same.1.join too.1, same.2.trans too.2.symm⟩

/-- Fates that are the same up to send times refuse a message both or neither. -/
theorem Alike.refusal_eq_none_iff (alike : Alike timestamp left right) :
    left.refusal = none ↔ right.refusal = none := by
  have same := alike.refusal
  generalize left.refusal = ofLeft at same ⊢
  generalize right.refusal = ofRight at same ⊢
  cases same <;> simp

theorem Alike.andThen
    {more further : Fate}
    (first : Alike timestamp left right)
    (second : Alike timestamp more further) :
    Alike timestamp (left.andThen more) (right.andThen further) where
  delivered := List.rel_append first.delivered second.delivered
  refusal := second.refusal

/-- Fates that are the same up to send times are answered alike, message by message. -/
theorem Alike.faults_handovers (alike : Alike timestamp left right) :
    left.handovers.map Handover.fault = right.handovers.map Handover.fault := by
  have accepted (messages : List Payload) :
      (messages.map Handover.accepted).map Handover.fault =
        List.replicate messages.length none := by
    rw [List.map_map]
    exact List.map_const'
  have same := alike.refusal
  rw [handovers, handovers, List.map_append, List.map_append, accepted, accepted,
    alike.delivered.length_eq]
  generalize left.refusal = ofLeft at same ⊢
  generalize right.refusal = ofRight at same ⊢
  cases same with
  | none => rfl
  | some refused =>
      simp only [Option.toList, List.map_cons, List.map_nil]
      rw [refused.2]

/-- Fates that are the same up to send times hand over equally many messages. -/
theorem Alike.length_handovers (alike : Alike timestamp left right) :
    left.handovers.length = right.handovers.length := by
  simpa using congrArg List.length alike.faults_handovers

theorem handovers_andThen (delivered : left.refusal = none) (right : Fate) :
    (left.andThen right).handovers = left.handovers ++ right.handovers := by
  simp [handovers, andThen, delivered]

end Fate

/-! ## Errands -/

/-- What settles which messages are handed over, apart from where they begin. -/
structure Errand where
  link : Nat -> Payload -> Option TransportFault
  plan : Plan
  filler : Payload

namespace Errand

/-- The message of a number, without a send time. -/
def message (errand : Errand) (number : UInt64) : Payload :=
  Header.bytes ⟨number, 0, Sending.flagsFor errand.plan.timestamp⟩ ++ errand.filler

/-- The transport does not look at the send times of messages. -/
def Blind (errand : Errand) : Prop :=
  forall attempt left right, Payload.Alike errand.plan.timestamp left right ->
    errand.link attempt left = errand.link attempt right

/-- What becomes of some messages that are handed over from an attempt and a number on. -/
def fate (errand : Errand) : Nat -> Nat -> UInt64 -> Fate
  | 0, _, _ => ⟨[], none⟩
  | count + 1, attempt, number =>
      match errand.link attempt (errand.message number) with
      | none => Fate.andThen ⟨[errand.message number], none⟩
          (errand.fate count (attempt + 1) (number + 1))
      | some fault => ⟨[], some (errand.message number, fault)⟩

section Fates

variable {errand : Errand} {count attempt : Nat} {number : UInt64}

theorem fate_succ_of_accepted (accepts : errand.link attempt (errand.message number) = none) :
    errand.fate (count + 1) attempt number =
      Fate.andThen ⟨[errand.message number], none⟩
        (errand.fate count (attempt + 1) (number + 1)) := by
  rw [fate, accepts]

theorem fate_succ_of_refused
    {fault : TransportFault}
    (refuses : errand.link attempt (errand.message number) = some fault) :
    errand.fate (count + 1) attempt number = ⟨[], some (errand.message number, fault)⟩ := by
  rw [fate, refuses]

/-- Where all messages are delivered, what follows is an errand of its own. -/
theorem fate_add_of_delivered
    (more : Nat)
    (delivered : (errand.fate count attempt number).refusal = none) :
    errand.fate (count + more) attempt number =
      (errand.fate count attempt number).andThen
        (errand.fate more (attempt + count) (number + UInt64.ofNat count)) := by
  induction count generalizing attempt number with
  | zero =>
      rw [Nat.zero_add]
      exact congrArg (errand.fate more attempt) (UInt64.add_zero number).symm
  | succ count hypothesis =>
      rw [Nat.add_right_comm]
      cases verdict : errand.link attempt (errand.message number) with
      | none =>
          rw [fate_succ_of_accepted verdict] at delivered
          have counted : number + 1 + UInt64.ofNat count = number + UInt64.ofNat (count + 1) := by
            rw [UInt64.add_assoc, Nat.add_comm count 1, UInt64.ofNat_add]
            rfl
          rw [fate_succ_of_accepted verdict, fate_succ_of_accepted verdict,
            hypothesis delivered, counted, Nat.add_assoc, Nat.add_comm 1 count]
          rfl
      | some fault =>
          rw [fate_succ_of_refused verdict] at delivered
          contradiction

/-- After a refusal nothing more is handed over. -/
theorem fate_add_of_refused
    (more : Nat)
    (refused : (errand.fate count attempt number).refusal ≠ none) :
    errand.fate (count + more) attempt number = errand.fate count attempt number := by
  induction count generalizing attempt number with
  | zero => exact absurd rfl refused
  | succ count hypothesis =>
      rw [Nat.add_right_comm]
      cases verdict : errand.link attempt (errand.message number) with
      | none =>
          rw [fate_succ_of_accepted verdict] at refused
          rw [fate_succ_of_accepted verdict, fate_succ_of_accepted verdict, hypothesis refused]
      | some fault => rw [fate_succ_of_refused verdict, fate_succ_of_refused verdict]

/-- All messages are delivered, or fewer than all before the refused one. -/
theorem length_delivered_fate (errand : Errand) (count attempt : Nat) (number : UInt64) :
    match (errand.fate count attempt number).refusal with
    | none => (errand.fate count attempt number).delivered.length = count
    | some _ => (errand.fate count attempt number).delivered.length < count := by
  induction count generalizing attempt number with
  | zero => rfl
  | succ count hypothesis =>
      cases verdict : errand.link attempt (errand.message number) with
      | none =>
          rw [fate_succ_of_accepted verdict]
          have rest := hypothesis (attempt + 1) (number + 1)
          simp only [Fate.andThen, List.length_append, List.length_singleton]
          split at rest <;> omega
      | some fault =>
          rw [fate_succ_of_refused verdict]
          exact Nat.succ_pos count

end Fates
end Errand

/-! ## Handing over -/

namespace Station

/-- A stretch of a run hands over some messages and counts each of them once. -/
structure HandsOver
    (confirmations : Confirmations)
    (before : Station)
    (handed : List Handover)
    (after : Station) : Prop where
  link : after.link = before.link
  attempts : after.attempts = before.attempts + handed.length
  handovers : after.handovers = before.handovers ++ handed
  total : after.flight.total = before.flight.total + UInt64.ofNat handed.length
  flight : confirmations = .none ->
    after.flight = Flight.sent^[handed.length] before.flight

variable {confirmations : Confirmations}

theorem HandsOver.refl (station : Station) : HandsOver confirmations station [] station where
  link := rfl
  attempts := rfl
  handovers := (List.append_nil _).symm
  total := (UInt64.add_zero _).symm
  flight := fun _ => rfl

theorem HandsOver.trans
    {before middle after : Station}
    {first second : List Handover}
    (begins : HandsOver confirmations before first middle)
    (goesOn : HandsOver confirmations middle second after) :
    HandsOver confirmations before (first ++ second) after where
  link := goesOn.link.trans begins.link
  attempts := by rw [goesOn.attempts, begins.attempts, List.length_append, Nat.add_assoc]
  handovers := by rw [goesOn.handovers, begins.handovers, List.append_assoc]
  total := by
    rw [goesOn.total, begins.total, List.length_append, UInt64.ofNat_add, UInt64.add_assoc]
  flight := by
    intro alone
    rw [goesOn.flight alone, begins.flight alone, List.length_append, Nat.add_comm,
      Function.iterate_add_apply]

/-- A request that launches no message hands over none and counts none. -/
theorem handsOver_idle
    (confirmations : Confirmations)
    {request : Sending.Request}
    (idle : request.launches = false)
    (station : Station) :
    HandsOver confirmations station [] (station.answerAmid confirmations request).2 := by
  have same :
      let after := (station.answerAmid confirmations request).2
      after.link = station.link ∧ after.attempts = station.attempts ∧
        after.handovers = station.handovers ∧
        after.flight = station.flight.confirmAll (confirmations request station) := by
    cases request with
    | clock purpose =>
        refine ⟨rfl, rfl, ?_, rfl⟩
        change List.filterMap _ (station.history.push _).toList = _
        rw [Array.toList_push, List.filterMap_append]
        exact List.append_nil _
    | total | peak | wait | note => exact ⟨rfl, rfl, rfl, rfl⟩
    | raiseTotal | raiseOutstanding | raisePeak | transmit => contradiction
  obtain ⟨link, attempts, handovers, flight⟩ := same
  exact
    { link := link
      attempts := attempts
      handovers := handovers.trans (List.append_nil _).symm
      total := by
        rw [flight, Flight.total_confirmAll]
        exact (UInt64.add_zero _).symm
      flight := by
        rintro rfl
        exact flight }

/-- A launch hands over one message. -/
theorem handsOver_launch
    (confirmations : Confirmations)
    (timestamp : Bool)
    (buffer : Buffer)
    (station : Station) :
    let message := buffer.write (station.nextHeader timestamp)
    let fault := station.link station.attempts message.bytes
    exists after,
      station.runAmid confirmations (Sending.launch timestamp buffer) =
          (some (fault, message), after) ∧
        HandsOver confirmations station [⟨message.bytes, fault⟩] after := by
  intro message fault
  obtain ⟨after, runs, leads⟩ := runAmid_launch confirmations station timestamp buffer
  refine ⟨after, runs, ?_⟩
  exact
    { link := leads.link
      attempts := by
        rw [leads.attempts, Trace.attempts_append, attempts_stamping, Nat.zero_add]
        rfl
      handovers := by
        unfold handovers
        rw [leads.history, List.filterMap_append]
        cases timestamp <;> rfl
      total := leads.total
      flight := by
        rintro rfl
        have counted : (station.runAmid .none (Sending.launch timestamp buffer)).2.flight =
            station.flight.sent := by
          cases timestamp <;> rfl
        rw [runs] at counted
        exact counted }

end Station

/-! ## Carrying out an errand -/

namespace Errand

variable {errand : Errand} {confirmations : Confirmations} {count more : Nat}
variable {before middle after : Station} {fate rest : Fate}

/-- A stretch of a run hands over what becomes of an errand, up to send times. -/
structure Meets
    (errand : Errand)
    (confirmations : Confirmations)
    (count : Nat)
    (before : Station)
    (fate : Fate)
    (after : Station) : Prop where
  handsOver : before.HandsOver confirmations fate.handovers after
  planned : fate.Alike errand.plan.timestamp
    (errand.fate count before.attempts before.flight.total)

namespace Meets

/-- All messages are delivered, or fewer than all before the refused one. -/
theorem length_delivered (meets : errand.Meets confirmations count before fate after) :
    match fate.refusal with
    | none => fate.delivered.length = count
    | some _ => fate.delivered.length < count := by
  have length := errand.length_delivered_fate count before.attempts before.flight.total
  have same := meets.planned.refusal
  rw [← meets.planned.delivered.length_eq] at length
  generalize fate.refusal = refusal at same ⊢
  generalize (errand.fate count before.attempts before.flight.total).refusal = planned
    at length same
  cases same <;> exact length

theorem length_handovers
    (meets : errand.Meets confirmations count before fate after)
    (delivered : fate.refusal = none) :
    fate.handovers.length = count := by
  have length := meets.length_delivered
  rw [delivered] at length
  rw [Fate.handovers, delivered, List.length_append, List.length_map, length]
  rfl

/-- Without messages nothing happens. -/
theorem nothing (station : Station) :
    errand.Meets confirmations 0 station ⟨[], none⟩ station where
  handsOver := .refl station
  planned := ⟨.nil, .none⟩

/-- Requests that launch no message may come before. -/
theorem after_idle
    (idle : before.HandsOver confirmations [] middle)
    (meets : errand.Meets confirmations count middle fate after) :
    errand.Meets confirmations count before fate after where
  handsOver := idle.trans meets.handsOver
  planned := by
    have planned := meets.planned
    rw [idle.attempts, idle.total] at planned
    rwa [← UInt64.add_zero before.flight.total]

/-- Requests that launch no message may come behind. -/
theorem before_idle
    (meets : errand.Meets confirmations count before fate middle)
    (idle : middle.HandsOver confirmations [] after) :
    errand.Meets confirmations count before fate after where
  handsOver := by
    have handsOver := meets.handsOver.trans idle
    rwa [List.append_nil] at handsOver
  planned := meets.planned

/-- Where all messages are delivered, more messages may follow. -/
theorem andThen
    (first : errand.Meets confirmations count before fate middle)
    (delivered : fate.refusal = none)
    (second : errand.Meets confirmations more middle rest after) :
    errand.Meets confirmations (count + more) before (fate.andThen rest) after where
  handsOver := by
    rw [Fate.handovers_andThen delivered]
    exact first.handsOver.trans second.handsOver
  planned := by
    have planned := second.planned
    rw [first.handsOver.attempts, first.handsOver.total, first.length_handovers delivered]
      at planned
    rw [fate_add_of_delivered more (first.planned.refusal_eq_none_iff.mp delivered)]
    exact first.planned.andThen planned

/-- After a refusal no more messages follow. -/
theorem stops
    (meets : errand.Meets confirmations count before fate after)
    (refused : fate.refusal ≠ none)
    (more : Nat) :
    errand.Meets confirmations (count + more) before fate after where
  handsOver := meets.handsOver
  planned := by
    rw [fate_add_of_refused more fun delivered =>
      refused (meets.planned.refusal_eq_none_iff.mpr delivered)]
    exact meets.planned

/-- A launch is an errand of one message. -/
theorem launch
    (confirmations : Confirmations)
    (blind : errand.Blind)
    (link : before.link = errand.link)
    {buffer : Buffer}
    (filler : buffer.filler = errand.filler) :
    exists fate result after,
      before.runAmid confirmations (Sending.launch errand.plan.timestamp buffer) =
          (some result, after) ∧
        errand.Meets confirmations 1 before fate after ∧
        result.1 = fate.refusal.map Prod.snd ∧
        result.2.filler = errand.filler := by
  obtain ⟨after, runs, handsOver⟩ :=
    before.handsOver_launch confirmations errand.plan.timestamp buffer
  let header := before.nextHeader errand.plan.timestamp
  have alike : Payload.Alike errand.plan.timestamp (buffer.write header).bytes
      (errand.message before.flight.total) := by
    have written : (buffer.write header).bytes = header.bytes ++ errand.filler :=
      congrArg (header.bytes ++ ·) filler
    rw [written, message]
    refine Payload.alike_of_headers ?sameNumber ?sameFlags (fun plain => ?same) errand.filler
    case sameNumber | sameFlags => rfl
    case same => simp [header, Station.nextHeader, plain]
  have verdict : before.link before.attempts (buffer.write header).bytes =
      errand.link before.attempts (errand.message before.flight.total) := by
    rw [link]
    exact blind _ _ _ alike
  have kept : (buffer.write header).filler = errand.filler :=
    (buffer.filler_write header).trans filler
  cases outcome : errand.link before.attempts (errand.message before.flight.total) with
  | none =>
      rw [verdict, outcome] at runs handsOver
      refine ⟨⟨[(buffer.write header).bytes], none⟩, _, after, runs, ⟨handsOver, ?_⟩, rfl, kept⟩
      rw [fate_succ_of_accepted outcome]
      exact ⟨.cons alike .nil, .none⟩
  | some fault =>
      rw [verdict, outcome] at runs handsOver
      refine ⟨⟨[], some ((buffer.write header).bytes, fault)⟩, _, after, runs,
        ⟨handsOver, ?_⟩, rfl, kept⟩
      rw [fate_succ_of_refused outcome]
      exact ⟨.nil, .some ⟨alike, rfl⟩⟩

end Meets

/-! ## Sending loops -/

/-- Where an errand may go on. -/
structure Ready (errand : Errand) (before : Station) (progress : Pacer.Progress) : Prop where
  link : before.link = errand.link
  filler : progress.buffer.filler = errand.filler

/-- The result of a sending loop tells what became of its messages, where some messages of
the run were sent before. -/
structure Tells
    (errand : Errand)
    (stage : Stage)
    (count : Nat)
    (sent : UInt64)
    (fate : Fate)
    (result : Option Failure × Pacer.Progress) : Prop where
  failure : result.1 = fate.refusal.map fun refused =>
    (Failure.ofCause (.transport refused.2)).within stage
  counted : fate.refusal = none -> result.2.sent = sent + UInt64.ofNat count
  filler : result.2.buffer.filler = errand.filler

/-- A sending loop comes to an end and has carried out an errand. -/
def Carries
    (errand : Errand)
    (stage : Stage)
    (confirmations : Confirmations)
    (count : Nat)
    (sent : UInt64)
    (before : Station)
    (loop : Sending (Option Failure × Pacer.Progress)) :
    Prop :=
  exists fate result after,
    before.runAmid confirmations loop = (some result, after) ∧
      errand.Meets confirmations count before fate after ∧
      errand.Tells stage count sent fate result

namespace Carries

variable {stage : Stage} {progress : Pacer.Progress}

theorem nothing
    (stage : Stage)
    (confirmations : Confirmations)
    (ready : errand.Ready before progress) :
    errand.Carries stage confirmations 0 progress.sent before (pure (none, progress)) :=
  ⟨_, _, _, rfl, .nothing before,
    { failure := rfl
      counted := fun _ => (UInt64.add_zero _).symm
      filler := ready.filler }⟩

/-- A loop may begin with requests that launch no message. -/
theorem ask
    {request : Sending.Request}
    (idle : request.launches = false)
    {next : request.Answer -> Sending (Option Failure × Pacer.Progress)}
    (ready : errand.Ready before progress)
    (carries : forall answer later,
      before.answerAmid confirmations request = (answer, later) ->
        errand.Ready later progress ->
          errand.Carries stage confirmations count progress.sent later (next answer)) :
    errand.Carries stage confirmations count progress.sent before (.ask request next) := by
  have asked := before.handsOver_idle confirmations idle
  obtain ⟨fate, result, after, runs, meets, tells⟩ :=
    carries _ _ rfl ⟨asked.link.trans ready.link, ready.filler⟩
  exact ⟨fate, result, after, runs, meets.after_idle asked, tells⟩

/-- A loop that has sent all its messages may go on with another one. -/
theorem andThen
    {loop : Sending (Option Failure × Pacer.Progress)}
    (ready : errand.Ready before progress)
    (next : Option Failure × Pacer.Progress -> Sending (Option Failure × Pacer.Progress))
    (first : errand.Carries stage confirmations count progress.sent before loop)
    (stops : forall failure last, next (some failure, last) = pure (some failure, last))
    (goesOn : forall later middle,
      before.runAmid confirmations loop = (some (none, later), middle) ->
        errand.Ready middle later ->
          later.sent = progress.sent + UInt64.ofNat count ->
            errand.Carries stage confirmations more later.sent middle (next (none, later))) :
    errand.Carries stage confirmations (count + more) progress.sent before (loop >>= next) := by
  obtain ⟨fate, ⟨failure, later⟩, middle, runs, meets, tells⟩ := first
  unfold Carries
  rw [Station.runAmid_bind runs]
  have told : failure = _ := tells.failure
  cases refusal : fate.refusal with
  | none =>
      obtain rfl : failure = none := by rw [told, refusal]; rfl
      have there : errand.Ready middle later :=
        ⟨meets.handsOver.link.trans ready.link, tells.filler⟩
      have sent := tells.counted refusal
      obtain ⟨rest, result, after, continues, further, tellsRest⟩ :=
        goesOn later middle runs there sent
      refine ⟨fate.andThen rest, result, after, continues, meets.andThen refusal further, ?_⟩
      exact
        { failure := tellsRest.failure
          counted := fun delivered => by
            rw [tellsRest.counted delivered, sent, UInt64.ofNat_add, UInt64.add_assoc]
          filler := tellsRest.filler }
  | some refused =>
      obtain ⟨fault, rfl⟩ : exists fault, failure = some fault := ⟨_, by rw [told, refusal]; rfl⟩
      rw [stops]
      have refuses : fate.refusal ≠ none := by simp [refusal]
      exact ⟨fate, _, middle, rfl, meets.stops refuses more,
        { failure := told
          counted := fun delivered => absurd delivered refuses
          filler := tells.filler }⟩

/-- Go on with what follows unless the messages so far ended in a failure. -/
def unlessFailed
    (goesOn : Pacer.Progress -> Sending (Option Failure × Pacer.Progress))
    (result : Option Failure × Pacer.Progress) :
    Sending (Option Failure × Pacer.Progress) :=
  match result.1 with
  | some failure => pure (some failure, result.2)
  | none => goesOn result.2

/-- A message is launched and, if it was refused, reported. -/
theorem one
    (stage : Stage)
    (confirmations : Confirmations)
    (blind : errand.Blind)
    (ready : errand.Ready before progress)
    (linkName : String) :
    errand.Carries stage confirmations 1 progress.sent before
      (Sending.launch errand.plan.timestamp progress.buffer >>= fun result =>
        match result.1 with
        | some fault =>
            Sending.refused linkName stage progress.sent progress.largest fault >>= fun failure =>
              pure (some failure, { progress with buffer := result.2 })
        | none =>
            pure (none, { progress with sent := progress.sent + 1, buffer := result.2 })) := by
  obtain ⟨fate, ⟨fault, buffer⟩, middle, runs, meets, told, filler⟩ :=
    Meets.launch confirmations blind ready.link ready.filler
  have told : fault = fate.refusal.map Prod.snd := told
  unfold Carries
  rw [Station.runAmid_bind runs]
  cases refusal : fate.refusal with
  | none =>
      obtain rfl : fault = none := by rw [told, refusal]; rfl
      exact ⟨fate, _, middle, rfl, meets,
        { failure := by rw [refusal]; rfl
          counted := fun _ => rfl
          filler := filler }⟩
  | some refused =>
      obtain rfl : fault = some refused.2 := by rw [told, refusal]; rfl
      -- The report asks for the peak and writes a diagnostic.
      have asked := middle.handsOver_idle confirmations (rfl : Sending.Request.peak.launches = _)
      have noted (entry : Log.Entry) (station : Station) :=
        station.handsOver_idle confirmations (rfl : (Sending.Request.note entry).launches = _)
      exact ⟨fate, _, _, rfl, (meets.before_idle asked).before_idle (noted _ _),
        { failure := by rw [refusal]; rfl
          counted := fun delivered => absurd (refusal.symm.trans delivered) (Option.some_ne_none _)
          filler := filler }⟩

/-- One more message is launched, and the loop goes on or reports why it was refused. -/
theorem launch
    (blind : errand.Blind)
    (ready : errand.Ready before progress)
    (linkName : String)
    {goesOn : Pacer.Progress -> Sending (Option Failure × Pacer.Progress)}
    (continues : forall later middle,
      errand.Ready middle later ->
        errand.Carries stage confirmations count later.sent middle (goesOn later)) :
    errand.Carries stage confirmations (count + 1) progress.sent before
      (Sending.launch errand.plan.timestamp progress.buffer >>= fun result =>
        match result.1 with
        | some fault =>
            Sending.refused linkName stage progress.sent progress.largest fault >>= fun failure =>
              pure (some failure, { progress with buffer := result.2 })
        | none =>
            goesOn { progress with sent := progress.sent + 1, buffer := result.2 }) := by
  have carries := andThen ready (unlessFailed goesOn)
    (one stage confirmations blind ready linkName) (fun _ _ => rfl)
    fun later middle _ there _ => continues later middle there
  rw [Program.bind_assoc, Nat.add_comm] at carries
  convert carries using 3 with result
  obtain ⟨_ | fault, buffer⟩ := result <;> rfl

end Carries
end Errand
end LatencyMeter
