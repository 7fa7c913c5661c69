import LatencyMeter.DatagramPath
import LatencyMeter.Proofs.Reception
import Mathlib.Data.List.Induction

/-!
# How datagrams are framed as streams

A datagram path makes streams of the datagrams that arrive: a stream is a beginning, one or
more messages and an end, and only the last stream may lack its end. `Framed` says which
events belong to which datagrams, without reference to the receive thread, and the receive
thread is shown to hand its handler just these.

The thread attends to everything it meets until an attempt that brings nothing finds that it
was asked to stop. What it has handed over until then is a `DatagramTrace`, which does not
depend on the handler; a handler that fails is handed the events up to the one at which it
fails.
-/

namespace LatencyMeter

/-- A datagram with the value of the clock at its arrival. -/
structure Datagram where
  payload : Payload
  source : SocketAddress
  receivedAt : UInt64
  deriving DecidableEq

namespace Datagram

/-- The message that a datagram is, unless it is empty. -/
def message (datagram : Datagram) : Reception.Message :=
  ⟨datagram.payload, some datagram.source, datagram.receivedAt⟩

/-- The event of a message. -/
def event (datagram : Datagram) : StreamEvent := datagram.message.event

/-- The events of a stream that has brought some messages and has not ended. -/
def begun (messages : List Datagram) : List StreamEvent :=
  Reception.begun (messages.map message)

/-- One more message begins the stream if it is the first. -/
theorem begun_append_singleton (messages : List Datagram) (latest : Datagram) :
    begun (messages ++ [latest]) =
      begun messages ++
        Reception.ofMessage (!messages.isEmpty) (some latest.source) latest.payload
          latest.receivedAt := by
  unfold begun
  rw [List.map_append, List.map_singleton, Reception.begun_append_singleton, List.isEmpty_map]
  rfl

end Datagram

/-- The events of datagrams that leave no stream open. -/
inductive Framed : List Datagram -> List StreamEvent -> Prop
  | nothing : Framed [] []
  /-- An empty datagram outside of a stream. -/
  | outside {datagrams : List Datagram} {events : List StreamEvent} {ending : Datagram}
      (framed : Framed datagrams events)
      (empty : ending.payload = []) :
      Framed (datagrams ++ [ending]) events
  /-- A stream and the empty datagram that ends it. -/
  | stream {datagrams messages : List Datagram} {events : List StreamEvent} {ending : Datagram}
      (framed : Framed datagrams events)
      (begins : messages ≠ [])
      (nonempty : forall message, message ∈ messages -> message.payload ≠ [])
      (empty : ending.payload = []) :
      Framed (datagrams ++ (messages ++ [ending]))
        (events ++ (Datagram.begun messages ++ [.endOfStream (some ending.source)]))

theorem Framed.loss_not_mem
    {datagrams : List Datagram}
    {events : List StreamEvent}
    (framed : Framed datagrams events) :
    StreamEvent.loss ∉ events := by
  induction framed with
  | nothing => exact List.not_mem_nil
  | outside _ _ hypothesis => exact hypothesis
  | stream _ _ _ _ hypothesis => simp [hypothesis, Datagram.begun, Reception.loss_not_mem_begun]

/-! ## What a receive thread meets -/

/-- What a datagram receive thread meets: what an attempt to receive brings, with the value
of the clock should it be read, or the request to stop. -/
inductive Encounter
  | attempt (arrival : Arrival) (now : UInt64)
  | stopRequest
  deriving DecidableEq

namespace Encounter

/-- The datagram that is received, if one is. -/
def datagram? : Encounter -> Option Datagram
  | .attempt (.datagram payload source) now => some ⟨payload, source, now⟩
  | _ => none

/-- Whether an attempt brings nothing for a reason other than an interruption. -/
def isVain : Encounter -> Bool
  | .attempt .timeout _ => true
  | .attempt (.failed _) _ => true
  | _ => false

end Encounter

/-- A thread attends to `heeded`, and then it ends if anything is left: it ends at the first
vain attempt that comes behind a request to stop. -/
structure Heeds (encounters heeded rest : List Encounter) : Prop where
  split : encounters = heeded ++ rest
  goesOn : heeded.Pairwise fun earlier later => earlier = .stopRequest -> later.isVain = false
  ends : rest = [] ∨
    exists vain after, rest = vain :: after ∧ vain.isVain = true ∧ .stopRequest ∈ heeded

namespace Heeds

variable {encounters heeded rest : List Encounter} {latest : Encounter}

/-- Whatever comes after the end does not matter. -/
theorem beyond (heeds : Heeds encounters heeded rest) (ended : rest ≠ []) :
    Heeds (encounters ++ [latest]) heeded (rest ++ [latest]) where
  split := by rw [heeds.split, List.append_assoc]
  goesOn := heeds.goesOn
  ends := by
    obtain none | ⟨vain, after, rfl, isVain, stop⟩ := heeds.ends
    · exact absurd none ended
    · exact .inr ⟨vain, after ++ [latest], rfl, isVain, stop⟩

/-- The thread attends to one thing more. -/
theorem attend
    (heeds : Heeds encounters heeded [])
    (goesOn : latest.isVain = true -> .stopRequest ∉ heeded) :
    Heeds (encounters ++ [latest]) (heeded ++ [latest]) [] where
  split := by rw [heeds.split, List.append_nil, List.append_nil]
  goesOn := by
    rw [List.pairwise_append]
    refine ⟨heeds.goesOn, List.pairwise_singleton _ _, ?_⟩
    rintro earlier member later isLater rfl
    obtain rfl := List.mem_singleton.mp isLater
    exact eq_false_of_ne_true fun vain => goesOn vain member
  ends := .inl rfl

/-- The thread ends at a vain attempt. -/
theorem finish
    (heeds : Heeds encounters heeded [])
    (vain : latest.isVain = true)
    (stop : .stopRequest ∈ heeded) :
    Heeds (encounters ++ [latest]) heeded [latest] where
  split := by rw [heeds.split, List.append_nil]
  goesOn := heeds.goesOn
  ends := .inr ⟨latest, [], rfl, vain, stop⟩

end Heeds

/-! ## One attempt -/

namespace DatagramThread

variable {thread : DatagramThread} (stopRequested : Bool) (now : UInt64)

theorem receive_finished (finished : thread.finished = true) (arrival : Arrival) :
    thread.receive stopRequested now arrival = ([], thread) := by
  unfold receive
  rw [finished, if_pos rfl]

theorem receive_end (running : thread.finished = false) (source : SocketAddress) :
    thread.receive stopRequested now (.datagram [] source) =
      (Reception.ofEnd thread.inStream (some source), { thread with inStream := false }) := by
  unfold receive
  rw [running, if_neg Bool.false_ne_true]

theorem receive_message
    (running : thread.finished = false)
    {payload : Payload}
    (nonempty : payload ≠ [])
    (source : SocketAddress) :
    thread.receive stopRequested now (.datagram payload source) =
      (Reception.ofMessage thread.inStream (some source) payload now,
        { thread with inStream := true }) := by
  unfold receive
  rw [running, if_neg Bool.false_ne_true]
  cases payload with
  | nil => contradiction
  | cons byte bytes => rfl

theorem receive_interrupted (running : thread.finished = false) :
    thread.receive stopRequested now .interrupted = ([], thread) := by
  unfold receive
  rw [running, if_neg Bool.false_ne_true]

theorem receive_vain
    (running : thread.finished = false)
    {arrival : Arrival}
    (vain : (Encounter.attempt arrival now).isVain = true) :
    thread.receive stopRequested now arrival = ([], { thread with finished := stopRequested }) := by
  unfold receive
  rw [running, if_neg Bool.false_ne_true]
  cases arrival with
  | timeout => rfl
  | failed reason => rfl
  | datagram | interrupted => contradiction

end DatagramThread

/-! ## What a thread hands over -/

/-- What a receive thread has handed to a handler that never fails, and where it stands. -/
structure DatagramTrace where
  stopRequested : Bool
  thread : DatagramThread
  events : List StreamEvent

namespace DatagramTrace

/-- A thread that has met nothing. -/
def start : DatagramTrace := ⟨false, DatagramThread.start, []⟩

/-- The thread meets one thing more. -/
def meet (trace : DatagramTrace) : Encounter -> DatagramTrace
  | .attempt arrival now =>
      let (events, thread) := trace.thread.receive trace.stopRequested now arrival
      { trace with thread := thread, events := trace.events ++ events }
  | .stopRequest => { trace with stopRequested := true }

/-- What a thread has handed over after some encounters. -/
def ofEncounters (encounters : List Encounter) : DatagramTrace :=
  encounters.foldl meet start

theorem ofEncounters_append_singleton (earlier : List Encounter) (latest : Encounter) :
    ofEncounters (earlier ++ [latest]) = (ofEncounters earlier).meet latest := by
  unfold ofEncounters
  rw [List.foldl_append]
  rfl

theorem stopRequested_ofEncounters (encounters : List Encounter) :
    (ofEncounters encounters).stopRequested = true ↔ .stopRequest ∈ encounters := by
  induction encounters using List.reverseRecOn with
  | nil => simp [ofEncounters, start]
  | append_singleton earlier latest hypothesis =>
      rw [ofEncounters_append_singleton]
      cases latest <;> simp [meet, hypothesis]

/-- A trace hands over the events of the datagrams that its thread attends to: of those whose
streams have ended, and of the messages of the stream that is open, if one is. -/
structure Frames
    (trace : DatagramTrace)
    (heeded rest : List Encounter)
    (closed messages : List Datagram)
    (events : List StreamEvent) :
    Prop where
  datagrams : heeded.filterMap Encounter.datagram? = closed ++ messages
  framed : Framed closed events
  nonempty : forall message, message ∈ messages -> message.payload ≠ []
  handed : trace.events = events ++ Datagram.begun messages
  finished : trace.thread.finished = !rest.isEmpty
  inStream : trace.thread.inStream = !messages.isEmpty

namespace Frames

variable {trace : DatagramTrace} {heeded rest : List Encounter} {closed messages : List Datagram}
  {events : List StreamEvent} {latest : Encounter} {now : UInt64} {source : SocketAddress}

theorem running (frames : trace.Frames heeded [] closed messages events) :
    trace.thread.finished = false := frames.finished

/-- What brings no datagram hands over nothing. -/
theorem idle
    (frames : trace.Frames heeded [] closed messages events)
    (nothing : latest.datagram? = none)
    (same : (trace.meet latest).events = trace.events)
    (stays : (trace.meet latest).thread = trace.thread) :
    (trace.meet latest).Frames (heeded ++ [latest]) [] closed messages events where
  datagrams := by rw [List.filterMap_append, frames.datagrams]; simp [nothing]
  framed := frames.framed
  nonempty := frames.nonempty
  handed := same.trans frames.handed
  finished := by rw [stays]; exact frames.finished
  inStream := by rw [stays]; exact frames.inStream

/-- A message begins a stream, or goes on with the one that is open. -/
theorem message
    (frames : trace.Frames heeded [] closed messages events)
    {payload : Payload}
    (nonempty : payload ≠ []) :
    (trace.meet (.attempt (.datagram payload source) now)).Frames
      (heeded ++ [.attempt (.datagram payload source) now]) [] closed
      (messages ++ [⟨payload, source, now⟩]) events := by
  have received :=
    DatagramThread.receive_message trace.stopRequested now frames.running nonempty source
  refine
    { datagrams := ?_
      framed := frames.framed
      nonempty := ?_
      handed := ?_
      finished := ?_
      inStream := ?_ }
  · rw [List.filterMap_append, frames.datagrams, List.append_assoc]
    rfl
  · intro message member
    rcases List.mem_append.mp member with earlier | isLatest
    · exact frames.nonempty message earlier
    · obtain rfl := List.mem_singleton.mp isLatest
      exact nonempty
  · rw [meet, received, Datagram.begun_append_singleton, ← frames.inStream, ← List.append_assoc,
      ← frames.handed]
  · rw [meet, received]
    exact frames.finished
  · rw [meet, received]
    simp

/-- An empty datagram ends the stream that is open, or comes outside of one. -/
theorem ending (frames : trace.Frames heeded [] closed messages events) :
    (trace.meet (.attempt (.datagram [] source) now)).Frames
      (heeded ++ [.attempt (.datagram [] source) now]) []
      (closed ++ (messages ++ [⟨[], source, now⟩])) []
      (events ++ (Datagram.begun messages ++
        Reception.ofEnd (!messages.isEmpty) (some source))) := by
  have received := DatagramThread.receive_end trace.stopRequested now frames.running source
  refine
    { datagrams := ?_
      framed := ?_
      nonempty := nofun
      handed := ?_
      finished := ?_
      inStream := ?_ }
  · rw [List.filterMap_append, frames.datagrams, List.append_assoc, List.append_nil]
    rfl
  · cases messages with
    | nil =>
        have empty : (⟨[], source, now⟩ : Datagram).payload = [] := rfl
        simpa [Datagram.begun, Reception.begun, Reception.ofEnd] using frames.framed.outside empty
    | cons first others => exact frames.framed.stream (List.cons_ne_nil _ _) frames.nonempty rfl
  · rw [meet, received, frames.handed, frames.inStream]
    simp [Datagram.begun, Reception.begun]
  · rw [meet, received]
    exact frames.finished
  · rw [meet, received]
    rfl

/-- A vain attempt ends a thread that was asked to stop. -/
theorem finish
    (frames : trace.Frames heeded [] closed messages events)
    {arrival : Arrival}
    (vain : (Encounter.attempt arrival now).isVain = true)
    (stop : trace.stopRequested = true) :
    (trace.meet (.attempt arrival now)).Frames heeded [.attempt arrival now] closed messages
      events := by
  have received := DatagramThread.receive_vain trace.stopRequested now frames.running vain
  refine { frames with handed := ?_, finished := ?_, inStream := ?_ }
  · rw [meet, received]
    simpa using frames.handed
  · rw [meet, received, stop]
    rfl
  · rw [meet, received]
    exact frames.inStream

/-- A thread that has ended stays as it is. -/
theorem beyond
    (frames : trace.Frames heeded rest closed messages events)
    (ended : rest ≠ []) :
    (trace.meet latest).Frames heeded (rest ++ [latest]) closed messages events := by
  have finished : trace.thread.finished = true := by
    rw [frames.finished]
    simpa using ended
  have same : (trace.meet latest).events = trace.events ∧
      (trace.meet latest).thread = trace.thread := by
    cases latest with
    | stopRequest => exact ⟨rfl, rfl⟩
    | attempt arrival now =>
        rw [meet, DatagramThread.receive_finished _ _ finished]
        exact ⟨List.append_nil _, rfl⟩
  exact
    { frames with
      handed := same.1.trans frames.handed
      finished := by rw [same.2, finished]; simp
      inStream := by rw [same.2]; exact frames.inStream }

end Frames

/-- A trace hands over the events of the datagrams that its thread attends to among some
encounters. -/
def Explains (trace : DatagramTrace) (encounters : List Encounter) : Prop :=
  exists heeded rest closed messages events,
    Heeds encounters heeded rest ∧ trace.Frames heeded rest closed messages events

section Step

variable {trace : DatagramTrace} {encounters heeded : List Encounter}
  {closed messages : List Datagram} {events : List StreamEvent}
  (heeds : Heeds encounters heeded [])
  (frames : trace.Frames heeded [] closed messages events)

include heeds frames

/-- A vain attempt ends the thread or changes nothing. -/
theorem explains_vain
    (asked : trace.stopRequested = true ↔ .stopRequest ∈ encounters)
    {arrival : Arrival}
    {now : UInt64}
    (vain : (Encounter.attempt arrival now).isVain = true) :
    (trace.meet (.attempt arrival now)).Explains (encounters ++ [.attempt arrival now]) := by
  rw [heeds.split, List.append_nil] at asked
  cases stop : trace.stopRequested with
  | true =>
      exact ⟨heeded, _, closed, messages, events, heeds.finish vain (asked.mp stop),
        frames.finish vain stop⟩
  | false =>
      have notAsked : .stopRequest ∉ heeded := by
        rw [← asked, stop]
        exact Bool.false_ne_true
      have received := DatagramThread.receive_vain trace.stopRequested now frames.running vain
      refine ⟨_, [], closed, messages, events, heeds.attend fun _ => notAsked,
        frames.idle ?_ ?_ ?_⟩
      · cases arrival with
        | datagram => contradiction
        | _ => rfl
      · rw [meet, received]
        exact List.append_nil _
      · rw [meet, received, stop, ← frames.running]

/-- Any other attempt brings a datagram or is repeated. -/
theorem explains_attempt
    {arrival : Arrival}
    {now : UInt64}
    (notVain : ¬ (Encounter.attempt arrival now).isVain = true) :
    (trace.meet (.attempt arrival now)).Explains (encounters ++ [.attempt arrival now]) := by
  have attended := heeds.attend
    fun (vain : (Encounter.attempt arrival now).isVain = true) => absurd vain notVain
  cases arrival with
  | timeout | failed => exact absurd rfl notVain
  | interrupted =>
      have received := DatagramThread.receive_interrupted trace.stopRequested now frames.running
      refine ⟨_, [], closed, messages, events, attended, frames.idle rfl ?_ ?_⟩
      · rw [meet, received]
        exact List.append_nil _
      · rw [meet, received]
  | datagram payload source =>
      by_cases empty : payload = []
      · subst empty
        exact ⟨_, [], _, [], _, attended, frames.ending⟩
      · exact ⟨_, [], closed, _, events, attended, frames.message empty⟩

end Step

/-- Whatever a thread meets, it hands over the events of the datagrams that it attends to. -/
theorem explains_ofEncounters (encounters : List Encounter) :
    (ofEncounters encounters).Explains encounters := by
  -- From the end, since what an encounter does depends on all that came before.
  induction encounters using List.reverseRecOn with
  | nil =>
      exact ⟨[], [], [], [], [], ⟨rfl, List.Pairwise.nil, .inl rfl⟩,
        ⟨rfl, .nothing, nofun, rfl, rfl, rfl⟩⟩
  | append_singleton earlier latest hypothesis =>
      have asked := stopRequested_ofEncounters earlier
      obtain ⟨heeded, rest, closed, messages, events, heeds, frames⟩ := hypothesis
      rw [ofEncounters_append_singleton]
      by_cases ended : rest = []
      · subst ended
        cases latest with
        | stopRequest =>
            exact ⟨_, [], closed, messages, events, heeds.attend nofun, frames.idle rfl rfl rfl⟩
        | attempt arrival now =>
            by_cases vain : (Encounter.attempt arrival now).isVain = true
            · exact explains_vain heeds frames asked vain
            · exact explains_attempt heeds frames vain
      · exact ⟨heeded, _, closed, messages, events, heeds.beyond ended, frames.beyond ended⟩

end DatagramTrace

/-! ## Any handler -/

namespace DatagramPath

variable {Sink : Type} {handler : Handler Sink} {sink : Sink}

/-- The receive thread of a path meets one thing more. -/
def meet (handler : Handler Sink) (path : DatagramPath Sink) : Encounter -> DatagramPath Sink
  | .attempt arrival now => ({ path with arriving := [arrival] }.step handler now).1
  | .stopRequest => path.requestStop

/-- A path after some encounters of its receive thread. -/
def ofEncounters
    (handler : Handler Sink)
    (sink : Sink)
    (encounters : List Encounter) :
    DatagramPath Sink :=
  encounters.foldl (meet handler) (start sink)

theorem ofEncounters_append_singleton (earlier : List Encounter) (latest : Encounter) :
    ofEncounters handler sink (earlier ++ [latest]) =
      (ofEncounters handler sink earlier).meet handler latest := by
  unfold ofEncounters
  rw [List.foldl_append]
  rfl

/-- A path has handed the events of a trace to its handler, and stands where the trace does
unless the handler has failed. -/
structure Follows
    (path : DatagramPath Sink)
    (handler : Handler Sink)
    (sink : Sink)
    (trace : DatagramTrace) :
    Prop where
  handed : Reception.deliver handler trace.events sink = (path.crash, path.sink)
  thread : path.crash = none -> path.thread = trace.thread
  stopRequested : path.stopRequested = trace.stopRequested

/-- An attempt of a thread that has ended changes nothing that matters. -/
theorem meet_attempt_of_ended
    {path : DatagramPath Sink}
    (ended : path.ended = true)
    (arrival : Arrival)
    (now : UInt64) :
    path.meet handler (.attempt arrival now) = { path with arriving := [arrival] } := by
  unfold meet step
  exact congrArg Prod.fst (if_pos ended)

/-- An attempt hands over what it brings. -/
theorem meet_attempt_of_running
    {path : DatagramPath Sink}
    (running : path.ended = false)
    (arrival : Arrival)
    (now : UInt64) :
    let received := path.thread.receive path.stopRequested now arrival
    let delivered := Reception.deliver handler received.1 path.sink
    path.meet handler (.attempt arrival now) =
      { path with
        arriving := []
        thread := received.2
        crash := delivered.1
        sink := delivered.2 } := by
  intro received delivered
  have goesOn : ¬ ({ path with arriving := [arrival] } : DatagramPath Sink).ended = true := by
    change ¬ path.ended = true
    rw [running]
    exact Bool.false_ne_true
  unfold meet step
  dsimp only
  rw [if_neg goesOn]
  rfl

/-- Whatever the thread meets, a path goes on to follow the trace. -/
theorem Follows.meet
    {path : DatagramPath Sink}
    {trace : DatagramTrace}
    (follows : path.Follows handler sink trace)
    (latest : Encounter) :
    (path.meet handler latest).Follows handler sink (trace.meet latest) := by
  cases latest with
  | stopRequest => exact ⟨follows.handed, follows.thread, rfl⟩
  | attempt arrival now =>
      have further (events : List StreamEvent) :=
        (Reception.deliver_append handler trace.events events sink).trans (by rw [follows.handed])
      cases crash : path.crash with
      | some cause =>
          -- The handler has failed, so nothing more is handed to it.
          have ended : path.ended = true := by simp [ended, crash]
          rw [meet_attempt_of_ended ended]
          refine ⟨?_, fun none => ?_, follows.stopRequested⟩
          · rw [DatagramTrace.meet, further, crash]
          · rw [crash] at none
            contradiction
      | none =>
          have thread := follows.thread crash
          rw [crash] at further
          cases finished : path.thread.finished with
          | true =>
              have ended : path.ended = true := by simp [ended, finished]
              rw [meet_attempt_of_ended ended]
              rw [thread] at finished
              refine ⟨?_, fun _ => ?_, follows.stopRequested⟩
              · rw [DatagramTrace.meet, DatagramThread.receive_finished _ _ finished]
                change Reception.deliver handler (trace.events ++ []) sink = _
                rw [List.append_nil]
                exact follows.handed
              · rw [DatagramTrace.meet, DatagramThread.receive_finished _ _ finished]
                exact thread
          | false =>
              have running : path.ended = false := by simp [ended, finished, crash]
              rw [meet_attempt_of_running running, thread, follows.stopRequested]
              exact ⟨further _, fun _ => rfl, rfl⟩

theorem follows_ofEncounters (handler : Handler Sink) (sink : Sink) (encounters : List Encounter) :
    (ofEncounters handler sink encounters).Follows handler sink
      (DatagramTrace.ofEncounters encounters) := by
  induction encounters using List.reverseRecOn with
  | nil => exact ⟨rfl, fun _ => rfl, rfl⟩
  | append_singleton earlier latest hypothesis =>
      rw [ofEncounters_append_singleton, DatagramTrace.ofEncounters_append_singleton]
      exact hypothesis.meet latest

/-- Whatever the receive thread of a datagram path meets, its handler is handed the events of
the datagrams that the thread attends to: streams with a beginning, their messages and an end
each, and at last the beginning and the messages of the stream that is open, if one is. The
beginning has the source of the first message, the end that of the empty datagram that brought
it about; nothing is reported as lost. The thread attends to everything up to the first vain
attempt behind a request to stop, and ends there. A handler that fails is handed the events up
to the one at which it fails. -/
theorem events_frame_datagrams
    (handler : Handler Sink)
    (sink : Sink)
    (encounters : List Encounter) :
    let path := ofEncounters handler sink encounters
    exists heeded rest closed messages events,
      Heeds encounters heeded rest ∧
        heeded.filterMap Encounter.datagram? = closed ++ messages ∧
        Framed closed events ∧
        (forall message, message ∈ messages -> message.payload ≠ []) ∧
        StreamEvent.loss ∉ events ++ Datagram.begun messages ∧
        Reception.deliver handler (events ++ Datagram.begun messages) sink =
          (path.crash, path.sink) ∧
        (path.crash = none ->
          (path.thread.finished = true ↔ rest ≠ []) ∧
            (path.thread.inStream = true ↔ messages ≠ [])) ∧
        ((forall sink event, (handler sink event).1 = none) -> path.crash = none) := by
  intro path
  obtain ⟨heeded, rest, closed, messages, events, heeds, frames⟩ :=
    DatagramTrace.explains_ofEncounters encounters
  have follows := follows_ofEncounters handler sink encounters
  have handed := follows.handed
  rw [frames.handed] at handed
  refine ⟨heeded, rest, closed, messages, events, heeds, frames.datagrams, frames.framed,
    frames.nonempty, ?_, handed, ?_, ?_⟩
  · rw [List.mem_append, not_or]
    exact ⟨frames.framed.loss_not_mem, Reception.loss_not_mem_begun _⟩
  · intro unfailed
    rw [follows.thread unfailed, frames.finished, frames.inStream]
    simp
  · intro unfailing
    have delivered := Reception.fst_deliver_of_unfailing unfailing
      (events ++ Datagram.begun messages) sink
    rwa [handed] at delivered

end DatagramPath
end LatencyMeter
