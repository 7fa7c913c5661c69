import LatencyMeter.Proofs.RoundTrip.Delivery

/-!
# The steps of a receive thread

The flight counters are shared with the threads that send. While a receive thread
handles a message it reads the count of sent messages, judges the number of the message
by its own window, and lowers the count of unconfirmed messages; other threads may act
before each of these steps. A `ReceiveThread` takes them one at a time, and
`step_step_step_hear` says that a thread which nobody disturbs does what
`RoundTrip.deliver` does.

A thread agrees with an observer who has seen how often the count of unconfirmed
messages was raised and which numbers were accepted: between accepting a number and
lowering the count, the count is one ahead. Agreement speaks of the counters as words,
so it needs no bound on how much was sent.
-/

namespace LatencyMeter

/-- A message whose header has been read. -/
structure Echo where
  header : Header
  receivedAt : UInt64
  retransmit : Bool
  deriving DecidableEq, Repr

/-- How far the handling of a message has come. -/
inductive ReceiveThread.Point
  | idle
  /-- The count of sent messages is to be read. -/
  | reading (echo : Echo)
  /-- The number is to be judged. -/
  | judging (echo : Echo) (total : UInt64)
  /-- The number is accepted, and the count of unconfirmed messages is to be lowered. -/
  | confirming (echo : Echo)
  | crashed (cause : Cause)
  deriving DecidableEq

/-- A measurement in the hands of a receive thread. -/
structure ReceiveThread where
  roundTrip : RoundTrip
  point : ReceiveThread.Point

namespace ReceiveThread

/-- A thread that has not heard anything. -/
def start (histogram : Histogram) : ReceiveThread := ⟨RoundTrip.start histogram, .idle⟩

/-- The shared counters. -/
def flight (thread : ReceiveThread) : Flight := thread.roundTrip.flight

/-- The thread after another one changed the shared counters. -/
def withFlight (thread : ReceiveThread) (flight : Flight) : ReceiveThread :=
  { thread with roundTrip := { thread.roundTrip with flight := flight } }

/-- Hear an event, unless one is being handled. Only messages take further steps. -/
def hear (thread : ReceiveThread) (event : StreamEvent) : ReceiveThread :=
  match thread.point with
  | .idle =>
      match event with
      | .data payload receivedAt _ retransmit =>
          match Header.decode payload with
          | .ok header => { thread with point := .reading ⟨header, receivedAt, retransmit⟩ }
          | .error _ => thread
      | event => { thread with roundTrip := (thread.roundTrip.deliver event).state }
  | _ => thread

/-- One step in the handling of a message. -/
def step (thread : ReceiveThread) : ReceiveThread :=
  match thread.point with
  | .idle => thread
  | .reading echo => { thread with point := .judging echo thread.flight.total }
  | .judging echo total =>
      match thread.roundTrip.echoes.check echo.header.number total with
      | (.fresh, echoes) =>
          { roundTrip := { thread.roundTrip with echoes := echoes }
            point := .confirming echo }
      | (verdict, echoes) =>
          { roundTrip :=
              (({ thread.roundTrip with echoes := echoes } : RoundTrip).ignore
                echo.header.number verdict).state
            point := .idle }
  | .confirming echo =>
      let handled :=
        thread.roundTrip.accept echo.header echo.receivedAt echo.retransmit
      { roundTrip := handled.state
        point :=
          match handled.fault with
          | none => .idle
          | some cause => .crashed cause }
  | .crashed _ => thread

/-- The number that the next step accepts, if it does accept one. -/
def accepting? (thread : ReceiveThread) : Option UInt64 :=
  match thread.point with
  | .judging echo total =>
      if (thread.roundTrip.echoes.check echo.header.number total).1 = .fresh then
        some echo.header.number
      else
        none
  | _ => none

/-- How many accepted numbers have not lowered the count yet. -/
def pending (thread : ReceiveThread) : Nat :=
  match thread.point with
  | .confirming _ => 1
  | _ => 0

/-! ## Undisturbed threads -/

theorem step_judging_fresh
    (thread : ReceiveThread)
    {echo : Echo}
    {total : UInt64}
    (judging : thread.point = .judging echo total)
    (fresh : (thread.roundTrip.echoes.check echo.header.number total).1 = .fresh) :
    thread.step =
      { roundTrip :=
          { thread.roundTrip with
            echoes := (thread.roundTrip.echoes.check echo.header.number total).2 }
        point := .confirming echo } := by
  unfold step
  rw [judging]
  dsimp only
  generalize thread.roundTrip.echoes.check echo.header.number total = judgement at fresh
  obtain ⟨verdict, echoes⟩ := judgement
  obtain rfl : verdict = .fresh := fresh
  rfl

theorem step_judging_known
    (thread : ReceiveThread)
    {echo : Echo}
    {total : UInt64}
    (judging : thread.point = .judging echo total)
    (known : (thread.roundTrip.echoes.check echo.header.number total).1 ≠ .fresh) :
    thread.step =
      { roundTrip :=
          (thread.roundTrip.ignore echo.header.number
            (thread.roundTrip.echoes.check echo.header.number total).1).state
        point := .idle } := by
  have unchanged := EchoWindow.check_eq_self_of_ne_fresh known
  unfold step
  rw [judging]
  dsimp only
  generalize thread.roundTrip.echoes.check echo.header.number total = judgement
    at known unchanged
  obtain ⟨verdict, echoes⟩ := judgement
  obtain rfl : echoes = thread.roundTrip.echoes := unchanged
  cases verdict with
  | fresh => exact absurd rfl known
  | duplicate => rfl
  | stale => rfl
  | unsent => rfl

/-- A confirmation that leaves a negative count ends the thread. -/
theorem point_step_confirming
    (thread : ReceiveThread)
    {echo : Echo}
    (confirming : thread.point = .confirming echo) :
    thread.step.point =
      if thread.flight.lower.outstanding < 0 then
        .crashed (.flight thread.flight.lower.outstanding)
      else
        .idle := by
  have fault :
      (thread.roundTrip.accept echo.header echo.receivedAt echo.retransmit).fault =
        if thread.flight.lower.outstanding < 0 then
          some (.flight thread.flight.lower.outstanding)
        else none :=
    RoundTrip.fault_accept
  rw [step, confirming]
  by_cases negative : thread.flight.lower.outstanding < 0
  · rw [if_pos negative] at fault ⊢
    simp only [fault]
  · rw [if_neg negative] at fault ⊢
    simp only [fault]

theorem roundTrip_step_confirming
    (thread : ReceiveThread)
    {echo : Echo}
    (confirming : thread.point = .confirming echo) :
    thread.step.roundTrip =
      (thread.roundTrip.accept echo.header echo.receivedAt echo.retransmit).state := by
  rw [step, confirming]

/-! ## What a step does -/

/-- All that a step of a thread may do, by the point that the thread has come to. -/
inductive Stepped (thread : ReceiveThread) : ReceiveThread -> Prop
  | idles (idle : thread.point = .idle) : Stepped thread thread
  | stops {cause : Cause} (crashed : thread.point = .crashed cause) : Stepped thread thread
  | reads {echo : Echo} (reading : thread.point = .reading echo) :
      Stepped thread { thread with point := .judging echo thread.flight.total }
  | accepts {echo : Echo} {total : UInt64}
      (judging : thread.point = .judging echo total)
      (fresh : (thread.roundTrip.echoes.check echo.header.number total).1 = .fresh) :
      Stepped thread
        { roundTrip :=
            { thread.roundTrip with
              echoes := (thread.roundTrip.echoes.check echo.header.number total).2 }
          point := .confirming echo }
  | ignores {echo : Echo} {total : UInt64}
      (judging : thread.point = .judging echo total)
      (known : (thread.roundTrip.echoes.check echo.header.number total).1 ≠ .fresh) :
      Stepped thread
        { roundTrip :=
            (thread.roundTrip.ignore echo.header.number
              (thread.roundTrip.echoes.check echo.header.number total).1).state
          point := .idle }
  | confirms {echo : Echo} (confirming : thread.point = .confirming echo) :
      Stepped thread
        { roundTrip :=
            (thread.roundTrip.accept echo.header echo.receivedAt echo.retransmit).state
          point :=
            if thread.flight.lower.outstanding < 0 then
              .crashed (.flight thread.flight.lower.outstanding)
            else
              .idle }

theorem stepped (thread : ReceiveThread) : thread.Stepped thread.step := by
  cases point : thread.point with
  | idle =>
      have rests : thread.step = thread := by rw [step, point]
      rw [rests]
      exact .idles point
  | crashed cause =>
      have rests : thread.step = thread := by rw [step, point]
      rw [rests]
      exact .stops point
  | reading echo =>
      have reads : thread.step = { thread with point := .judging echo thread.flight.total } := by
        rw [step, point]
      rw [reads]
      exact .reads point
  | judging echo total =>
      by_cases fresh : (thread.roundTrip.echoes.check echo.header.number total).1 = .fresh
      · rw [step_judging_fresh thread point fresh]
        exact .accepts point fresh
      · rw [step_judging_known thread point fresh]
        exact .ignores point fresh
  | confirming echo =>
      have confirms : thread.step = ⟨thread.step.roundTrip, thread.step.point⟩ := rfl
      rw [confirms, roundTrip_step_confirming thread point, point_step_confirming thread point]
      exact .confirms point

/-- Nothing but a confirmation ends a thread. -/
theorem of_step_crashed
    {thread : ReceiveThread}
    {cause : Cause}
    (crashes : thread.step.point = .crashed cause) :
    thread.point = .crashed cause ∨
      exists echo, thread.point = .confirming echo ∧
        thread.flight.lower.outstanding < 0 := by
  have stepped := thread.stepped
  generalize thread.step = next at stepped crashes
  cases stepped with
  | idles idle => exact .inl crashes
  | stops crashed => exact .inl crashes
  | reads reading => exact absurd crashes (by simp)
  | accepts judging fresh => exact absurd crashes (by simp)
  | ignores judging known => exact absurd crashes (by simp)
  | confirms confirming =>
      dsimp only at crashes
      split at crashes
      · next negative => exact .inr ⟨_, confirming, negative⟩
      · exact absurd crashes (by simp)

/-- No step of a receive thread changes the count of sent messages. -/
theorem total_step (thread : ReceiveThread) :
    thread.step.flight.total = thread.flight.total := by
  have stepped := thread.stepped
  generalize thread.step = next at stepped ⊢
  cases stepped with
  | confirms confirming =>
      unfold flight
      dsimp only
      rw [RoundTrip.flight_accept, Flight.total_lower]
  | _ => rfl

/-- A number is judged by the count of sent messages that was read before. -/
theorem point_of_step_judging
    {thread : ReceiveThread}
    {echo : Echo}
    {total : UInt64}
    (judging : thread.step.point = .judging echo total) :
    total = thread.flight.total := by
  have stepped := thread.stepped
  generalize thread.step = next at stepped judging
  cases stepped with
  | idles idle => exact absurd (idle.symm.trans judging) (by simp)
  | stops crashed => exact absurd (crashed.symm.trans judging) (by simp)
  | reads reading => exact (Point.judging.inj judging).2.symm
  | accepts earlier fresh => exact absurd judging (by simp)
  | ignores earlier known => exact absurd judging (by simp)
  | confirms confirming =>
      dsimp only at judging
      split at judging <;> exact absurd judging (by simp)

/-- A number that the next step accepts is below the count that it is judged by. -/
theorem lt_of_accepting
    {thread : ReceiveThread}
    {number : UInt64}
    (accepts : thread.accepting? = some number) :
    exists echo total, thread.point = .judging echo total ∧
      echo.header.number = number ∧ number < total := by
  unfold accepting? at accepts
  split at accepts
  · next echo total judging =>
    split at accepts
    · next fresh =>
      obtain rfl : echo.header.number = number := Option.some.inj accepts
      exact ⟨echo, total, judging, rfl, EchoWindow.lt_of_check_fresh fresh⟩
    · exact absurd accepts (by simp)
  · exact absurd accepts (by simp)

/-- A thread that handles an event without being disturbed does what a measurement does
that is handed the event as a whole. -/
theorem step_step_step_hear (roundTrip : RoundTrip) (event : StreamEvent) :
    ((ReceiveThread.mk roundTrip .idle).hear event).step.step.step =
      { roundTrip := (roundTrip.deliver event).state
        point :=
          match (roundTrip.deliver event).fault with
          | none => .idle
          | some cause => .crashed cause } := by
  cases event with
  | beginOfStream source => rfl
  | loss => rfl
  | endOfStream source => rfl
  | data payload receivedAt source retransmit =>
      cases decoded : Header.decode payload with
      | error fault =>
          rw [RoundTrip.deliver, RoundTrip.onData_foreign decoded]
          simp only [hear, decoded, step]
      | ok header =>
          let judging : ReceiveThread :=
            ⟨roundTrip, .judging ⟨header, receivedAt, retransmit⟩ roundTrip.flight.total⟩
          have heard : ((ReceiveThread.mk roundTrip .idle).hear
              (.data payload receivedAt source retransmit)).step = judging := by
            simp only [hear, decoded, step, flight, judging]
          rw [heard, RoundTrip.deliver]
          by_cases fresh :
              (roundTrip.echoes.check header.number roundTrip.flight.total).1 = .fresh
          · rw [step_judging_fresh judging rfl fresh, RoundTrip.onData_fresh decoded fresh]
            rfl
          · rw [step_judging_known judging rfl fresh, RoundTrip.onData_known decoded fresh]
            rfl

/-! ## Agreement with an observer -/

/-- The count of unconfirmed messages is how often it was raised less the accepted
numbers that have lowered it, and the window represents what was accepted. -/
structure Agrees (thread : ReceiveThread) (raised : Nat) (accepted : EchoHistory) : Prop where
  outstanding : thread.flight.outstanding =
    Int64.ofInt (raised + thread.pending - accepted.length)
  represents : thread.roundTrip.echoes.Represents accepted
  nodup : accepted.Nodup
  confirming_mem : forall echo, thread.point = .confirming echo ->
    echo.header.number ∈ accepted

theorem agrees_start (histogram : Histogram) : (start histogram).Agrees 0 [] where
  outstanding := rfl
  represents := EchoWindow.represents_empty
  nodup := List.nodup_nil
  confirming_mem := by
    intro echo confirming
    exact absurd confirming (by simp [start])

/-- Hearing an event touches neither the counters nor the window, and begins the handling
of a message or leaves the thread where it is. -/
theorem hear_eq (thread : ReceiveThread) (event : StreamEvent) :
    (thread.hear event).flight = thread.flight ∧
      (thread.hear event).roundTrip.echoes = thread.roundTrip.echoes ∧
      ((thread.hear event).point = thread.point ∨
        thread.point = .idle ∧
          exists echo, (thread.hear event).point = .reading echo) := by
  unfold hear
  split
  · next idle =>
    split
    · split
      · exact ⟨rfl, rfl, .inr ⟨idle, _, rfl⟩⟩
      · exact ⟨rfl, rfl, .inl rfl⟩
    · next noData =>
      have ignores : thread.roundTrip.accepted? event = none := by
        cases event with
        | data payload receivedAt source retransmit =>
            exact absurd rfl (noData payload receivedAt source retransmit)
        | beginOfStream source => rfl
        | loss => rfl
        | endOfStream source => rfl
      obtain ⟨flight, echoes, _⟩ := RoundTrip.deliver_of_not_accepted ignores
      exact ⟨flight, echoes, .inl rfl⟩
  · exact ⟨rfl, rfl, .inl rfl⟩

/-- Hearing an event does not end a thread. -/
theorem point_hear_of_crashed
    {thread : ReceiveThread}
    {event : StreamEvent}
    {cause : Cause}
    (crashed : (thread.hear event).point = .crashed cause) :
    thread.point = .crashed cause := by
  obtain ⟨_, _, stays | ⟨_, other, begins⟩⟩ := hear_eq thread event
  · rwa [stays] at crashed
  · exact absurd (begins.symm.trans crashed) (by simp)

/-- A number is judged only after it was read from the header. -/
theorem point_hear_of_judging
    {thread : ReceiveThread}
    {event : StreamEvent}
    {echo : Echo}
    {total : UInt64}
    (judging : (thread.hear event).point = .judging echo total) :
    thread.point = .judging echo total := by
  obtain ⟨_, _, stays | ⟨_, other, begins⟩⟩ := hear_eq thread event
  · rwa [stays] at judging
  · exact absurd (begins.symm.trans judging) (by simp)

namespace Agrees

variable {thread : ReceiveThread} {raised : Nat} {accepted : EchoHistory}

theorem hear (agrees : thread.Agrees raised accepted) (event : StreamEvent) :
    (thread.hear event).Agrees raised accepted := by
  obtain ⟨flight, echoes, stays | ⟨idle, echo, begins⟩⟩ := hear_eq thread event
  · have pending : (thread.hear event).pending = thread.pending := by
      rw [ReceiveThread.pending, ReceiveThread.pending, stays]
    refine ⟨?_, ?_, agrees.nodup, ?_⟩
    · rw [flight, pending]
      exact agrees.outstanding
    · rw [echoes]
      exact agrees.represents
    · rw [stays]
      exact agrees.confirming_mem
  · have pending : (thread.hear event).pending = thread.pending := by
      rw [ReceiveThread.pending, ReceiveThread.pending, idle, begins]
    refine ⟨?_, ?_, agrees.nodup, ?_⟩
    · rw [flight, pending]
      exact agrees.outstanding
    · rw [echoes]
      exact agrees.represents
    · intro other confirming
      exact absurd (begins.symm.trans confirming) (by simp)

/-- Another thread may change the counters, as long as the observer sees how often it
raises the count. -/
theorem withFlight
    (agrees : thread.Agrees raised accepted)
    {flight : Flight}
    {more : Nat}
    (outstanding : flight.outstanding = thread.flight.outstanding + Int64.ofInt more) :
    (thread.withFlight flight).Agrees (raised + more) accepted where
  outstanding := by
    change flight.outstanding = _
    rw [outstanding, agrees.outstanding, ← Int64.ofInt_add]
    congr 1
    change _ = ((raised + more : Nat) : Int) + (thread.pending : Int) - _
    omega
  represents := agrees.represents
  nodup := agrees.nodup
  confirming_mem := agrees.confirming_mem

/-- Accepting a number puts the accepted ones ahead of the count. -/
theorem accept
    (agrees : thread.Agrees raised accepted)
    {echo : Echo}
    {total : UInt64}
    (judging : thread.point = .judging echo total)
    (fresh : (thread.roundTrip.echoes.check echo.header.number total).1 = .fresh) :
    Agrees
      { roundTrip :=
          { thread.roundTrip with
            echoes := (thread.roundTrip.echoes.check echo.header.number total).2 }
        point := .confirming echo }
      raised (echo.header.number :: accepted) := by
  have judged := agrees.represents.check_eq_verdict echo.header.number total
  obtain ⟨_, wasAbsent⟩ := EchoHistory.of_verdict_fresh (judged.symm.trans fresh)
  have outstanding := agrees.outstanding
  rw [pending, judging] at outstanding
  refine ⟨?_, agrees.represents.check_fresh fresh,
    List.nodup_cons.mpr ⟨wasAbsent, agrees.nodup⟩, ?_⟩
  · refine outstanding.trans ?_
    congr 1
    change (raised : Int) + (0 : Nat) - _ = (raised : Int) + (1 : Nat) -
      ((accepted.length + 1 : Nat) : Int)
    omega
  · rintro other ⟨rfl⟩
    exact List.mem_cons_self

/-- What the count becomes when an accepted number is confirmed. -/
theorem lower_outstanding
    (agrees : thread.Agrees raised accepted)
    {echo : Echo}
    (confirming : thread.point = .confirming echo) :
    thread.flight.lower.outstanding = Int64.ofInt (raised - accepted.length) := by
  have outstanding := agrees.outstanding
  rw [pending, confirming] at outstanding
  rw [Flight.outstanding_lower, outstanding]
  change _ - Int64.ofInt 1 = _
  rw [← Int64.ofInt_sub]
  congr 1
  change (raised : Int) + (1 : Nat) - _ - 1 = _
  omega

/-- Confirming an accepted number lets the count catch up, also when it is a fault. -/
theorem confirm
    (agrees : thread.Agrees raised accepted)
    {echo : Echo}
    (confirming : thread.point = .confirming echo)
    {point : Point}
    (settled : forall other, point ≠ .confirming other) :
    Agrees
      { roundTrip :=
          (thread.roundTrip.accept echo.header echo.receivedAt echo.retransmit).state
        point := point }
      raised accepted := by
  have level := agrees.lower_outstanding confirming
  refine ⟨?_, ?_, agrees.nodup, fun other again => absurd again (settled other)⟩
  · have nothing : (ReceiveThread.mk
        (thread.roundTrip.accept echo.header echo.receivedAt echo.retransmit).state
        point).pending = 0 := by
      unfold pending
      split
      · next other again => exact absurd again (settled other)
      · rfl
    rw [nothing, flight]
    dsimp only
    rw [RoundTrip.flight_accept]
    exact level
  · dsimp only
    rw [RoundTrip.echoes_accept]
    exact agrees.represents

/-- A step in the handling of a message keeps the agreement. -/
theorem step (agrees : thread.Agrees raised accepted) :
    thread.step.Agrees raised (thread.accepting?.toList ++ accepted) := by
  have stepped := thread.stepped
  generalize thread.step = next at stepped ⊢
  cases stepped with
  | idles idle =>
      rw [accepting?, idle]
      exact agrees
  | stops crashed =>
      rw [accepting?, crashed]
      exact agrees
  | reads reading =>
      have outstanding := agrees.outstanding
      rw [pending, reading] at outstanding
      rw [accepting?, reading]
      refine ⟨outstanding, agrees.represents, agrees.nodup, ?_⟩
      intro other confirming
      exact absurd confirming (by simp)
  | accepts judging fresh =>
      rw [accepting?, judging]
      dsimp only
      rw [if_pos fresh]
      exact agrees.accept judging fresh
  | ignores judging known =>
      have outstanding := agrees.outstanding
      rw [pending, judging] at outstanding
      rw [accepting?, judging]
      dsimp only
      rw [if_neg known]
      refine ⟨outstanding, agrees.represents, agrees.nodup, ?_⟩
      intro other confirming
      exact absurd confirming (by simp)
  | confirms confirming =>
      rw [accepting?, confirming]
      refine agrees.confirm confirming ?_
      intro other
      split <;> simp

end Agrees

end ReceiveThread
end LatencyMeter
