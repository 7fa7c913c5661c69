import LatencyMeter.Proofs.Loopback.Attendance
import LatencyMeter.Proofs.Reception

/-!
# Shutting a loopback path down

A sending thread sends messages over a loopback path and closes it; then the receive thread is
asked to stop and waited for. It acts in between and behind all this, whenever it gets to it.

A receive thread that receives or handles messages ends once the queue is empty, since the path
is closed: then the handler was handed the whole stream. But it may have waited in vain while
the path was open, and be about to look whether it is to stop. If the request comes first, it
ends at that look, whatever was sent and closed in the meantime.
-/

namespace LatencyMeter

/-- The message that was picked up. -/
def Pickup.arrived (pickup : Pickup) : Reception.Message :=
  ⟨pickup.message, none, pickup.receivedAt⟩

namespace LoopbackPath

variable {Sink : Type}

/-- A handler that never fails. -/
def handlerOf (deliver : Sink -> StreamEvent -> Sink) : Handler Sink :=
  fun sink event => (none, deliver sink event)

variable {deliver : Sink -> StreamEvent -> Sink} {path : LoopbackPath Sink} {now : UInt64}

theorem deliver_handlerOf (events : List StreamEvent) (sink : Sink) :
    Reception.deliver (handlerOf deliver) events sink = (none, events.foldl deliver sink) := by
  induction events generalizing sink with
  | nil => rfl
  | cons event rest hypothesis => exact hypothesis (deliver sink event)

theorem handle_handlerOf (events : List StreamEvent) (next : Point) :
    path.handle (handlerOf deliver) events next =
      { path with sink := events.foldl deliver path.sink, point := next } := by
  unfold handle
  rw [deliver_handlerOf]

/-! ## Where the receive thread stands -/

theorem point_of_waited (waited : path.waitedInVain = true) : path.point = .idle := by
  unfold waitedInVain at waited
  split at waited <;> simp_all

theorem waitedInVain_of_ended (ended : path.ended = true) : path.waitedInVain = false := by
  unfold LoopbackPath.ended at ended
  unfold waitedInVain
  split at ended <;> simp_all

/-- A receive thread that stands where it may has ended behind the last message. -/
theorem Stands.finished_of_ended (stands : path.Stands) (ended : path.ended = true) :
    path.point = .finished ∧ path.queue = [] ∧ path.senderOpen = false := by
  unfold Stands at stands
  unfold LoopbackPath.ended at ended
  split at stands <;> simp_all

theorem ended_iff_actsToEnd (path : LoopbackPath Sink) :
    path.ended = true ↔ path.actsToEnd = 0 := by
  unfold ended actsToEnd
  cases path.point <;> simp

/-! ## One act of the receive thread -/

/-- What the receive thread may do in one act. -/
inductive Act
    (deliver : Sink -> StreamEvent -> Sink)
    (path : LoopbackPath Sink)
    (now : UInt64) :
    LoopbackPath Sink -> Prop
  | take
      (message : Payload)
      (rest : List Payload)
      (receiving : path.point = .receiving)
      (queue : path.queue = message :: rest) :
      Act deliver path now { path with queue := rest, point := .holding message now }
  | wait
      (receiving : path.point = .receiving)
      (isOpen : path.senderOpen = true) :
      Act deliver path now { path with point := .idle }
  | finish
      (receiving : path.point = .receiving)
      (queue : path.queue = [])
      (closed : path.senderOpen = false) :
      Act deliver path now
        { path with
          sink := (Reception.ofEnd path.inStream none).foldl deliver path.sink
          point := .finished }
  | hear
      (message : Payload)
      (receivedAt : UInt64)
      (holding : path.point = .holding message receivedAt) :
      Act deliver path now
        { path with
          inStream := true
          sink :=
            (Reception.ofMessage path.inStream none message receivedAt).foldl deliver path.sink
          point := .receiving }
  | look (idle : path.point = .idle) :
      Act deliver path now
        { path with point := if path.stopRequested then .finished else .receiving }
  | nothing (ended : path.ended = true) :
      Act deliver path now path

theorem act_step
    (deliver : Sink -> StreamEvent -> Sink)
    (path : LoopbackPath Sink)
    (now : UInt64) :
    path.Act deliver now (path.step (handlerOf deliver) now) := by
  obtain ⟨queue, senderOpen, stopRequested, point, inStream, sink⟩ := path
  cases point with
  | receiving =>
      cases queue with
      | cons message rest => exact .take message rest rfl rfl
      | nil =>
          cases senderOpen with
          | true => exact .wait rfl rfl
          | false =>
              dsimp only [step]
              rw [if_neg Bool.false_ne_true, handle_handlerOf]
              exact .finish rfl rfl rfl
  | holding message receivedAt =>
      dsimp only [step]
      rw [handle_handlerOf]
      exact .hear message receivedAt rfl
  | idle => exact .look rfl
  | finished | crashed => exact .nothing rfl

/-- The events at the end of a stream, once the receive thread has ended. -/
def ending (path : LoopbackPath Sink) : List StreamEvent :=
  match path.point with
  | .finished => Reception.ofEnd path.inStream none
  | .receiving | .holding _ _ | .idle | .crashed _ => []

/-- The messages that were sent have been heard, or one is held and the others wait. -/
structure Conveys
    (path : LoopbackPath Sink)
    (deliver : Sink -> StreamEvent -> Sink)
    (sink : Sink)
    (messages : List Payload)
    (heard : List Pickup) :
    Prop where
  sent : messages = (heard ++ path.held).map Pickup.message ++ path.queue
  inStream : path.inStream = !heard.isEmpty
  handed : path.sink =
    (Reception.begun (heard.map Pickup.arrived) ++ path.ending).foldl deliver sink
  /-- A thread that has waited in vain may end at once, so nothing is said of it. -/
  stands : path.waitedInVain = false -> path.Stands

/-- The receive thread hears all that is sent before it ends: it is not asked to stop, or its
path is closed and it has not waited in vain. -/
def Persists (path : LoopbackPath Sink) : Prop :=
  path.stopRequested = false ∨ path.senderOpen = false ∧ path.waitedInVain = false

theorem Conveys.start (deliver : Sink -> StreamEvent -> Sink) (sink : Sink) :
    (LoopbackPath.start sink).Conveys deliver sink [] [] where
  sent := rfl
  inStream := rfl
  handed := rfl
  stands _ := trivial

namespace Conveys

variable {sink : Sink} {messages : List Payload} {heard : List Pickup}
  (conveys : path.Conveys deliver sink messages heard)

include conveys

/-- Closing the path and asking its thread to stop change nothing that was conveyed. -/
theorem close : path.close.Conveys deliver sink messages heard :=
  { conveys with stands := fun notWaiting => (conveys.stands notWaiting).close }

theorem requestStop : path.requestStop.Conveys deliver sink messages heard :=
  { conveys with }

/-- The receive thread ends only once its path is closed. -/
theorem running (isOpen : path.senderOpen = true) : path.ended = false := by
  refine Bool.eq_false_of_not_eq_true fun ended => ?_
  have stands := conveys.stands (waitedInVain_of_ended ended)
  have closed := (stands.finished_of_ended ended).2.2
  simp [closed] at isOpen

/-- A message that is sent over an open path waits behind all others. -/
theorem send (isOpen : path.senderOpen = true) (message : Payload) :
    path.send message = (none, { path with queue := path.queue ++ [message] }) ∧
      ({ path with queue := path.queue ++ [message] } : LoopbackPath Sink).Conveys deliver sink
        (messages ++ [message]) heard := by
  have running := conveys.running isOpen
  constructor
  · simp [LoopbackPath.send, isOpen, running]
  · have notFinished : path.point ≠ .finished := by
      intro finished
      simp [ended, finished] at running
    refine { conveys with
      sent := ?_
      stands := fun notWaiting => (conveys.stands notWaiting).enqueue notFinished _ }
    rw [conveys.sent, List.append_assoc]
    rfl

/-- At most two acts for each message, and one more, bring the receive thread to its end. -/
theorem actsToEnd_le : path.actsToEnd ≤ 2 * messages.length + 1 := by
  rw [conveys.sent, List.length_append, List.length_map, List.length_append]
  unfold held actsToEnd
  cases path.point <;> dsimp only [List.length_nil, List.length_cons] <;> omega

/-- A thread that has ended behind all messages has handed over the whole stream. -/
theorem of_ended (ended : path.ended = true) :
    path.joined = none ∧
      path.sink = (Reception.begun (heard.map Pickup.arrived) ++
        Reception.ofEnd (!heard.isEmpty) none).foldl deliver sink ∧
      messages = heard.map Pickup.message := by
  have stands := conveys.stands (waitedInVain_of_ended ended)
  obtain ⟨finished, empty, _⟩ := stands.finished_of_ended ended
  have sent := conveys.sent
  have handed := conveys.handed
  rw [held, finished, empty] at sent
  rw [ending, finished, conveys.inStream] at handed
  refine ⟨?_, handed, ?_⟩
  · rw [joined, finished]
  · simpa using sent

/-- A thread that has waited in vain has handed over what came before. -/
theorem of_waited (waited : path.waitedInVain = true) :
    path.sink = (Reception.begun (heard.map Pickup.arrived)).foldl deliver sink ∧
      messages = heard.map Pickup.message ++ path.queue := by
  have idle := point_of_waited waited
  have sent := conveys.sent
  have handed := conveys.handed
  rw [held, idle] at sent
  rw [ending, idle] at handed
  exact ⟨by simpa using handed, by simpa using sent⟩

end Conveys

namespace Act

variable {later : LoopbackPath Sink} {sink : Sink} {messages : List Payload}
  {heard : List Pickup} (act : path.Act deliver now later)

include act

theorem senderOpen_eq : later.senderOpen = path.senderOpen := by
  cases act <;> rfl

theorem stopRequested_eq : later.stopRequested = path.stopRequested := by
  cases act <;> rfl

/-- On a closed path nobody waits in vain who has not yet done so. -/
theorem persists (persists : path.Persists) : later.Persists := by
  obtain notAsked | ⟨closed, notWaiting⟩ := persists
  · exact .inl (act.stopRequested_eq.trans notAsked)
  · refine .inr ⟨act.senderOpen_eq.trans closed, ?_⟩
    cases act with
    | take | finish | hear => rfl
    | wait receiving isOpen => simp [closed] at isOpen
    | look idle => simp [waitedInVain, idle] at notWaiting
    | nothing => exact notWaiting

/-- Once it is asked to stop on a closed path, each act brings the thread closer to its end. -/
theorem actsToEnd_le
    (closed : path.senderOpen = false)
    (asked : path.stopRequested = true) :
    later.actsToEnd ≤ path.actsToEnd - 1 := by
  cases act with
  | take _ _ receiving queue => simp [actsToEnd, receiving, queue]; omega
  | wait receiving isOpen => simp [closed] at isOpen
  | finish => exact Nat.zero_le _
  | hear _ _ holding => simp [actsToEnd, holding]
  | look idle => simp [actsToEnd, asked]
  | nothing ended =>
      have none := (ended_iff_actsToEnd path).mp ended
      rw [none]

/-- An act of a persisting thread hears the message that it holds, or moves one along. -/
theorem conveys
    (conveys : path.Conveys deliver sink messages heard)
    (persists : path.Persists) :
    exists heard : List Pickup, later.Conveys deliver sink messages heard := by
  have sent := conveys.sent
  have handed := conveys.handed
  unfold held at sent
  unfold ending at handed
  cases act with
  | take message rest receiving queue =>
      rw [receiving, queue] at sent
      rw [receiving] at handed
      refine ⟨heard, ?_, conveys.inStream, handed, fun _ => trivial⟩
      rw [sent]
      simp [held]
  | wait receiving =>
      rw [receiving] at sent handed
      refine ⟨heard, sent, conveys.inStream, handed, fun notWaiting => ?_⟩
      simp [waitedInVain] at notWaiting
  | finish receiving queue closed =>
      rw [receiving] at sent handed
      refine ⟨heard, sent, conveys.inStream, ?_, fun _ => ⟨queue, closed⟩⟩
      dsimp only [ending]
      rw [List.foldl_append, handed, List.append_nil]
  | hear message receivedAt holding =>
      rw [holding] at sent handed
      refine ⟨heard ++ [⟨message, receivedAt⟩], ?_, ?_, ?_, fun _ => trivial⟩
      · rw [sent]
        simp [held]
      · simp
      · dsimp only [ending]
        rw [handed, List.append_nil, List.append_nil, ← List.foldl_append, List.map_append,
          List.map_singleton, Reception.begun_append_singleton, List.isEmpty_map, conveys.inStream]
        rfl
  | look idle =>
      rw [idle] at sent handed
      have notAsked : path.stopRequested = false :=
        persists.resolve_right fun closed => by simp [waitedInVain, idle] at closed
      refine ⟨heard, ?_, conveys.inStream, ?_, fun _ => ?_⟩
      · simpa [held, notAsked] using sent
      · simpa [ending, notAsked] using handed
      · simp [Stands, notAsked]
  | nothing => exact ⟨heard, conveys⟩

end Act

/-! ## Many acts -/

/-- The path once the receive thread has acted alone, at these values of the clock. -/
def acts
    (deliver : Sink -> StreamEvent -> Sink)
    (path : LoopbackPath Sink)
    (readings : List UInt64) :
    LoopbackPath Sink :=
  readings.foldl (fun path now => path.step (handlerOf deliver) now) path

theorem senderOpen_acts (readings : List UInt64) :
    (path.acts deliver readings).senderOpen = path.senderOpen := by
  induction readings generalizing path with
  | nil => rfl
  | cons now rest hypothesis => exact hypothesis.trans (path.act_step deliver now).senderOpen_eq

theorem conveys_acts
    {sink : Sink}
    {messages : List Payload}
    {heard : List Pickup}
    (conveys : path.Conveys deliver sink messages heard)
    (persists : path.Persists)
    (readings : List UInt64) :
    exists heard : List Pickup,
      (path.acts deliver readings).Conveys deliver sink messages heard := by
  induction readings generalizing path heard with
  | nil => exact ⟨heard, conveys⟩
  | cons now rest hypothesis =>
      have act := path.act_step deliver now
      obtain ⟨heard, conveys⟩ := act.conveys conveys persists
      exact hypothesis conveys (act.persists persists)

theorem actsToEnd_acts
    (deliver : Sink -> StreamEvent -> Sink)
    (closed : path.senderOpen = false)
    (asked : path.stopRequested = true)
    (readings : List UInt64) :
    (path.acts deliver readings).actsToEnd ≤ path.actsToEnd - readings.length := by
  induction readings generalizing path with
  | nil => exact Nat.le_refl _
  | cons now rest hypothesis =>
      have act := path.act_step deliver now
      have closer := act.actsToEnd_le closed asked
      have further :=
        hypothesis (act.senderOpen_eq.trans closed) (act.stopRequested_eq.trans asked)
      refine Nat.le_trans further ?_
      rw [List.length_cons]
      omega

theorem acts_of_ended (ended : path.ended = true) (readings : List UInt64) :
    path.acts deliver readings = path := by
  induction readings with
  | nil => rfl
  | cons now rest hypothesis =>
      have same : path.step (handlerOf deliver) now = path := by
        unfold LoopbackPath.ended at ended
        unfold step
        split at ended <;> simp_all
      unfold acts
      rw [List.foldl_cons, same]
      exact hypothesis

/-- A thread that has waited in vain ends at its first act if it is asked to stop. -/
theorem acts_of_waited
    (waited : path.waitedInVain = true)
    (asked : path.stopRequested = true)
    (readings : List UInt64) :
    path.acts deliver readings =
      if readings = [] then path else { path with point := .finished } := by
  cases readings with
  | nil => rfl
  | cons now rest =>
      have look : path.step (handlerOf deliver) now = { path with point := .finished } := by
        rw [step, point_of_waited waited]
        dsimp only
        rw [if_pos asked]
      rw [if_neg (List.cons_ne_nil now rest)]
      unfold acts
      rw [List.foldl_cons, look]
      exact acts_of_ended rfl rest

/-- How a thread that was asked to stop on a closed path ends. -/
theorem outcome_of_asked
    {sink : Sink}
    {messages : List Payload}
    {heard : List Pickup}
    (conveys : path.Conveys deliver sink messages heard)
    (closed : path.senderOpen = false)
    (asked : path.stopRequested = true)
    {readings : List UInt64}
    (ended : (path.acts deliver readings).ended = true) :
    (path.acts deliver readings).joined = none ∧
      exists heard : List Pickup,
        let begun := Reception.begun (heard.map Pickup.arrived)
        if path.waitedInVain then
          (path.acts deliver readings).sink = begun.foldl deliver sink ∧
            messages = heard.map Pickup.message ++ path.queue
        else
          (path.acts deliver readings).sink =
              (begun ++ Reception.ofEnd (!heard.isEmpty) none).foldl deliver sink ∧
            messages = heard.map Pickup.message := by
  cases waited : path.waitedInVain with
  | true =>
      obtain ⟨handed, sent⟩ := conveys.of_waited waited
      rw [acts_of_waited waited asked] at ended ⊢
      split at ended
      · rw [waitedInVain_of_ended ended] at waited
        contradiction
      · next acted =>
        rw [if_neg acted]
        exact ⟨rfl, heard, handed, sent⟩
  | false =>
      obtain ⟨heard, conveys⟩ := conveys_acts conveys (.inr ⟨closed, waited⟩) readings
      obtain ⟨joined, whole⟩ := conveys.of_ended ended
      exact ⟨joined, heard, whole⟩

end LoopbackPath

/-! ## Both threads -/

/-- What the two threads do besides closing the path and asking to stop. -/
inductive LoopbackMove
  | send (message : Payload)
  | act (now : UInt64)

namespace LoopbackMove

/-- The message that is sent, if one is. -/
def message? : LoopbackMove -> Option Payload
  | .send message => some message
  | .act _ => none

/-- The value of the clock, should the receive thread act. -/
def reading? : LoopbackMove -> Option UInt64
  | .send _ => none
  | .act now => some now

end LoopbackMove

/-- A path, and what the sending thread was answered for the messages that it sent. -/
structure Passage (Sink : Type) where
  path : LoopbackPath Sink
  answers : List (Option TransportFault)

namespace Passage

variable {Sink : Type} {deliver : Sink -> StreamEvent -> Sink}

def start (sink : Sink) : Passage Sink := ⟨LoopbackPath.start sink, []⟩

/-- One of the threads makes a move. -/
def move (deliver : Sink -> StreamEvent -> Sink) (passage : Passage Sink) :
    LoopbackMove -> Passage Sink
  | .send message =>
      let (answer, path) := passage.path.send message
      ⟨path, passage.answers ++ [answer]⟩
  | .act now => { passage with path := passage.path.step (LoopbackPath.handlerOf deliver) now }

/-- The threads make some moves. -/
def run
    (deliver : Sink -> StreamEvent -> Sink)
    (passage : Passage Sink)
    (moves : List LoopbackMove) :
    Passage Sink :=
  moves.foldl (move deliver) passage

/-- The sending thread closes the path. -/
def close (passage : Passage Sink) : Passage Sink :=
  { passage with path := passage.path.close }

/-- The receive thread is asked to stop. -/
def requestStop (passage : Passage Sink) : Passage Sink :=
  { passage with path := passage.path.requestStop }

/-- On a closed path nothing is sent, and the receive thread acts as if it were alone. -/
theorem run_of_closed
    (passage : Passage Sink)
    (closed : passage.path.senderOpen = false)
    (moves : List LoopbackMove) :
    passage.run deliver moves =
      ⟨passage.path.acts deliver (moves.filterMap LoopbackMove.reading?),
        passage.answers ++
          (moves.filterMap LoopbackMove.message?).map fun _ => some .disconnected⟩ := by
  induction moves generalizing passage with
  | nil => simp [run, LoopbackPath.acts]
  | cons latest rest hypothesis =>
      change (passage.move deliver latest).run deliver rest = _
      cases latest with
      | send message =>
          have refused : passage.move deliver (.send message) =
              ⟨passage.path, passage.answers ++ [some .disconnected]⟩ := by
            simp [move, LoopbackPath.send, closed]
          rw [hypothesis (passage.move deliver (.send message)) (by rw [refused]; exact closed),
            refused]
          simp [List.filterMap_cons, LoopbackMove.reading?, LoopbackMove.message?]
      | act now =>
          have act := passage.path.act_step deliver now
          exact hypothesis _ (act.senderOpen_eq.trans closed)

/-- As long as the path is open, all messages are accepted and conveyed. -/
theorem run_of_open
    (deliver : Sink -> StreamEvent -> Sink)
    (sink : Sink)
    (moves : List LoopbackMove) :
    let passage := (start sink).run deliver moves
    let messages := moves.filterMap LoopbackMove.message?
    passage.path.senderOpen = true ∧
      passage.path.stopRequested = false ∧
      passage.answers = messages.map (fun _ => none) ∧
      exists heard, passage.path.Conveys deliver sink messages heard := by
  induction moves using List.reverseRecOn with
  | nil => exact ⟨rfl, rfl, rfl, [], .start deliver sink⟩
  | append_singleton earlier latest hypothesis =>
      obtain ⟨isOpen, notAsked, accepted, heard, conveys⟩ := hypothesis
      have last : (start sink).run deliver (earlier ++ [latest]) =
          ((start sink).run deliver earlier).move deliver latest := by
        unfold run
        rw [List.foldl_append]
        rfl
      intro passage messages
      dsimp only [passage, messages]
      rw [last, List.filterMap_append]
      generalize (start sink).run deliver earlier = before at isOpen notAsked accepted conveys ⊢
      cases latest with
      | send message =>
          obtain ⟨sent, further⟩ := conveys.send isOpen message
          rw [move, sent]
          refine ⟨isOpen, notAsked, ?_, heard, further⟩
          rw [accepted, List.map_append]
          rfl
      | act now =>
          have act := before.path.act_step deliver now
          obtain ⟨heard, further⟩ := act.conveys conveys (.inl notAsked)
          have nothing : [LoopbackMove.act now].filterMap LoopbackMove.message? = [] := rfl
          rw [nothing, List.append_nil]
          exact ⟨act.senderOpen_eq.trans isOpen, act.stopRequested_eq.trans notAsked, accepted,
            heard, further⟩

/-- Every message that is sent before the path is closed is accepted, and every later one is
refused. Once the receive thread is asked to stop, it ends after at most two acts for each
message and one more, and joining it is no fault. The handler was handed a whole stream then,
with each message in its order, or nothing if there was none; unless the thread had waited in
vain and not yet looked whether it is to stop when it was asked to. In that case the handler
was handed what the thread had heard by then and no end of the stream, and what was in the
queue is lost. -/
theorem stream_whole_unless_waited_in_vain
    (deliver : Sink -> StreamEvent -> Sink)
    (sink : Sink)
    (sending closed stopping : List LoopbackMove) :
    let asked := ((start sink).run deliver sending).close.run deliver closed
    let final := asked.requestStop.run deliver stopping
    let messages := sending.filterMap LoopbackMove.message?
    let late := (closed ++ stopping).filterMap LoopbackMove.message?
    final.answers = messages.map (fun _ => none) ++ late.map (fun _ => some .disconnected) ∧
      (2 * messages.length + 1 ≤ (stopping.filterMap LoopbackMove.reading?).length ->
        final.path.ended = true) ∧
      (final.path.ended = true ->
        final.path.joined = none ∧
          exists heard : List Pickup,
            let begun := Reception.begun (heard.map Pickup.arrived)
            if asked.path.waitedInVain then
              final.path.sink = begun.foldl deliver sink ∧
                messages = heard.map Pickup.message ++ asked.path.queue
            else
              final.path.sink =
                  (begun ++ Reception.ofEnd (!heard.isEmpty) none).foldl deliver sink ∧
                messages = heard.map Pickup.message) := by
  intro asked final messages late
  obtain ⟨_, notAsked, accepted, heard, opened⟩ := run_of_open deliver sink sending
  let sent := ((start sink).run deliver sending).close
  -- Until it is asked to stop, the thread goes on even if it has waited in vain. From then on
  -- this decides, and nothing but acts of the thread makes a difference on the closed path.
  have whileClosed : asked = _ := run_of_closed sent rfl closed
  obtain ⟨heard, conveys⟩ := LoopbackPath.conveys_acts opened.close (.inl notAsked)
    (closed.filterMap LoopbackMove.reading?)
  have isClosed : asked.requestStop.path.senderOpen = false := by
    rw [whileClosed]
    exact LoopbackPath.senderOpen_acts _
  have whileStopping : final = _ := run_of_closed asked.requestStop isClosed stopping
  have stopped : asked.requestStop.path.Conveys deliver sink messages heard := by
    rw [whileClosed]
    exact conveys.requestStop
  rw [whileStopping]
  refine ⟨?_, fun enough => ?_, fun ended => ?_⟩
  · rw [requestStop, whileClosed]
    change ((start sink).run deliver sending).answers ++ _ ++ _ = _
    rw [accepted, List.append_assoc, ← List.map_append, ← List.filterMap_append]
  · rw [LoopbackPath.ended_iff_actsToEnd]
    have closer := LoopbackPath.actsToEnd_acts deliver isClosed rfl
      (stopping.filterMap LoopbackMove.reading?)
    have first := stopped.actsToEnd_le
    dsimp only
    omega
  · exact LoopbackPath.outcome_of_asked stopped isClosed rfl ended

/-- The receive thread has waited in vain for a second message when that one is sent, the path
is closed and the thread is asked to stop. All this succeeds, but the message is lost and the
stream does not end. -/
theorem stream_cut_off_after_vain_wait :
    let record (seen : List StreamEvent) (event : StreamEvent) := seen ++ [event]
    let asked := ((start []).run record
      [.send [1], .act 3, .act 4, .act 5, .send [2]]).close.requestStop
    let final := asked.run record [.act 6]
    asked.path.waitedInVain = true ∧
      final.answers = [none, none] ∧
      final.path.ended = true ∧
      final.path.joined = none ∧
      final.path.sink = [.beginOfStream none, .data [1] 3 none false] ∧
      ¬ exists heard : List Pickup,
        heard.map Pickup.message = [[1], [2]] ∧
          final.path.sink =
            Reception.begun (heard.map Pickup.arrived) ++
              Reception.ofEnd (!heard.isEmpty) none := by
  intro record asked final
  have seen : final.path.sink = [.beginOfStream none, .data [1] 3 none false] := rfl
  refine ⟨rfl, rfl, rfl, rfl, seen, ?_⟩
  rintro ⟨heard, messages, whole⟩
  obtain ⟨first, second, rfl⟩ := List.length_eq_two.mp
    ((List.length_map _).symm.trans (congrArg List.length messages))
  rw [seen] at whole
  simp [Reception.begun] at whole

end Passage
end LatencyMeter
