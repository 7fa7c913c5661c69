import LatencyMeter.Proofs.Pacer.CatchUp
import LatencyMeter.Proofs.Pacer.Filler
import LatencyMeter.Proofs.Schedule
import Mathlib.Algebra.Order.BigOperators.Group.List
import Mathlib.Algebra.Order.Group.Nat

/-!
# The bursts of a run

A run is known from the outside by its requests. Those of a catch-up pacer fall into stretches
between its looks at the schedule, and those of a delayed pacer into stretches between its
waits. A burst is what is handed over in one such stretch.

The catch-up pacer does not count the messages of its bursts. Before each burst it notes how
many messages are missing, by a clock that may go back. This is the size of the burst all the
same, since a burst is sent without another look at the clock.
-/

namespace LatencyMeter
namespace Program

variable {Request : Type} {Answer : Request -> Type}

/-- What a program asks in surroundings that answer at once, in order. -/
def requests (answer : (request : Request) -> State -> Answer request × State) :
    Program Request Answer α -> State -> List Request
  | .done _, _ => []
  | .unfinished, _ => []
  | .ask request next, state =>
      request :: (next (answer request state).1).requests answer (answer request state).2

/-- After a program that ends, the next one asks where it ended. -/
theorem requests_bind
    {answer : (request : Request) -> State -> Answer request × State}
    {program : Program Request Answer α}
    {state after : State}
    {result : α}
    (ends : program.run answer state = (some result, after))
    (next : α -> Program Request Answer β) :
    (program >>= next).requests answer state =
      program.requests answer state ++ (next result).requests answer after := by
  induction program generalizing state with
  | done final =>
      obtain ⟨⟨⟩, rfl⟩ := Prod.mk.inj ends
      rfl
  | unfinished => cases (Prod.mk.inj ends).1
  | ask request rest hypothesis =>
      exact congrArg (request :: ·) (hypothesis _ ends)

end Program

namespace Station

/-- What a sending loop asks at a station amid confirmations, in order. -/
def asked (confirmations : Confirmations) (station : Station) (program : Sending α) :
    List Sending.Request :=
  program.requests (answerAmid confirmations) station

theorem asked_bind
    {confirmations : Confirmations}
    {station after : Station}
    {program : Sending α}
    {result : α}
    (ends : station.runAmid confirmations program = (some result, after))
    (next : α -> Sending β) :
    station.asked confirmations (program >>= next) =
      station.asked confirmations program ++ after.asked confirmations (next result) :=
  Program.requests_bind ends next

end Station

namespace Sending.Request

/-- Whether the clock is read to look at the schedule. -/
def looks : Request -> Bool
  | .clock .schedule => true
  | _ => false

/-- Whether time is let pass. -/
def waits : Request -> Bool
  | .wait _ => true
  | _ => false

/-- Whether a message is handed over. -/
def transmits : Request -> Bool
  | .transmit _ => true
  | _ => false

end Sending.Request

namespace Sending

open Request

/-- How many messages are handed over by some requests. -/
def sends (requests : List Request) : Nat := requests.countP transmits

@[simp] theorem sends_append (first second : List Request) :
    sends (first ++ second) = sends first + sends second :=
  List.countP_append

/-- There is neither a look at the schedule nor a wait among some requests. -/
def Unbroken (requests : List Request) : Prop :=
  forall request, request ∈ requests -> request.looks = false ∧ request.waits = false

namespace Unbroken

variable {first second : List Request}

theorem nil : Unbroken [] := nofun

theorem append (unbroken : Unbroken first) (also : Unbroken second) :
    Unbroken (first ++ second) := by
  intro request member
  rcases List.mem_append.mp member with early | late
  · exact unbroken request early
  · exact also request late

theorem splitOnP_looks (unbroken : Unbroken first) : first.splitOnP looks = [first] :=
  List.splitOnP_eq_singleton fun request member => (unbroken request member).1

theorem splitOnP_waits (unbroken : Unbroken first) : first.splitOnP waits = [first] :=
  List.splitOnP_eq_singleton fun request member => (unbroken request member).2

end Unbroken
end Sending

open Sending Sending.Request

/-- The sizes of the bursts of a run that asked some requests. The bursts of a catch-up pacer
lie between two consecutive looks at the schedule, those of a delayed pacer are not broken by
a wait. -/
def Pacing.bursts : Pacing -> List Sending.Request -> List Nat
  | .catchUp, requests => (requests.splitOnP looks).tail.dropLast.map sends
  | .delayed _, requests => ((requests.splitOnP waits).map sends).filter (0 < ·)

/-- The size of the largest burst, or zero if there is none. -/
def Pacing.largest (pacing : Pacing) (requests : List Sending.Request) : Nat :=
  (pacing.bursts requests).max?.getD 0

theorem Pacing.largest_le_sum (pacing : Pacing) (requests : List Sending.Request) :
    pacing.largest requests ≤ (pacing.bursts requests).sum := by
  unfold largest
  cases greatest : (pacing.bursts requests).max? with
  | none => exact Nat.zero_le _
  | some size => exact List.le_sum_of_mem (List.max?_mem greatest)

/-- If anything is sent, the largest burst is not empty. -/
theorem Pacing.largest_pos
    {pacing : Pacing}
    {requests : List Sending.Request}
    (positive : 1 ≤ (pacing.bursts requests).sum) :
    1 ≤ pacing.largest requests := by
  by_contra none
  have empty (size : Nat) (member : size ∈ pacing.bursts requests) : size = 0 := by
    have most : size ≤ pacing.largest requests := List.le_max?_getD_of_mem member
    omega
  rw [List.sum_eq_zero empty] at positive
  contradiction

/-! ## What the loops ask -/

section Loops

variable {confirmations : Confirmations} {station after : Station} {linkName : String}

/-- A launch hands over one message without a break. -/
theorem Station.asked_launch
    (confirmations : Confirmations)
    (station : Station)
    (timestamp : Bool)
    (buffer : Buffer) :
    let asked := station.asked confirmations (Sending.launch timestamp buffer)
    Unbroken asked ∧ sends asked = 1 := by
  cases timestamp with
  | true =>
      refine ⟨fun request member => ?_, rfl⟩
      change request ∈
        [.total, .raiseTotal, .raiseOutstanding, .raisePeak _, .clock .stamp, .transmit _]
        at member
      simp only [List.mem_cons, List.not_mem_nil, or_false] at member
      rcases member with rfl | rfl | rfl | rfl | rfl | rfl <;> exact ⟨rfl, rfl⟩
  | false =>
      refine ⟨fun request member => ?_, rfl⟩
      change request ∈ [.total, .raiseTotal, .raiseOutstanding, .raisePeak _, .transmit _]
        at member
      simp only [List.mem_cons, List.not_mem_nil, or_false] at member
      rcases member with rfl | rfl | rfl | rfl | rfl <;> exact ⟨rfl, rfl⟩

namespace Pacer

variable {plan : Plan} {progress last : Progress} {remaining : Nat}

/-- A sending loop that meets no refusal goes on behind each of its launches. -/
theorem exists_launch_of_unrefused
    {stage : Stage}
    {timestamp : Bool}
    {next : Option TransportFault × Buffer -> Sending (Option Failure × Progress)}
    (refusing : forall fault buffer,
      next (some fault, buffer) =
        Sending.refused linkName stage progress.sent progress.largest fault >>= fun failure =>
          pure (some failure, { progress with buffer := buffer }))
    (ends : station.runAmid confirmations
      (Sending.launch timestamp progress.buffer >>= next) = (some (none, last), after)) :
    exists buffer launched,
      station.runAmid confirmations (Sending.launch timestamp progress.buffer) =
          (some (none, buffer), launched) ∧
        launched.runAmid confirmations (next (none, buffer)) = (some (none, last), after) := by
  obtain ⟨launched, launches, _⟩ :=
    Station.runAmid_launch confirmations station timestamp progress.buffer
  rw [Station.runAmid_bind launches] at ends
  cases fate : station.link station.attempts
      (progress.buffer.write (station.nextHeader timestamp)).bytes with
  | none =>
      rw [fate] at launches ends
      exact ⟨_, launched, launches, ends⟩
  | some fault =>
      obtain ⟨reported, reports, _⟩ :=
        Station.runAmid_refused confirmations launched linkName stage progress.sent
          progress.largest fault
      rw [fate, refusing, Station.runAmid_bind reports] at ends
      cases (Prod.mk.inj ends).1

/-- A burst that meets no refusal hands over its messages without a break. -/
theorem asked_burst
    {timestamp : Bool}
    (ends : station.runAmid confirmations (burst linkName timestamp remaining progress) =
      (some (none, last), after)) :
    let asked := station.asked confirmations (burst linkName timestamp remaining progress)
    Unbroken asked ∧ sends asked = remaining ∧
      last.sent = progress.sent + UInt64.ofNat remaining ∧ last.largest = progress.largest := by
  induction remaining generalizing station progress with
  | zero =>
      obtain ⟨⟨⟩, rfl⟩ := Prod.mk.inj ends
      exact ⟨.nil, rfl, (UInt64.add_zero _).symm, rfl⟩
  | succ remaining hypothesis =>
      unfold burst at ends ⊢
      obtain ⟨buffer, launched, launches, goesOn⟩ :=
        exists_launch_of_unrefused (fun _ _ => rfl) ends
      obtain ⟨unbroken, one⟩ := station.asked_launch confirmations timestamp progress.buffer
      obtain ⟨also, others, sent, largest⟩ := hypothesis goesOn
      rw [Station.asked_bind launches]
      refine ⟨unbroken.append also, ?_, ?_, largest⟩
      · rw [sends_append, one]
        dsimp only
        rw [others, Nat.add_comm]
      · rw [sent, UInt64.add_assoc, UInt64.add_comm 1, UInt64.ofNat_add]
        rfl

/-- The stretches of a catch-up loop that has sent what was left of its plan. -/
structure Stretched
    (plan : Plan)
    (progress last : Progress)
    (asked : List Sending.Request)
    (stretches : List (List Sending.Request)) : Prop where
  split : forall rest, Unbroken rest ->
    (asked ++ rest).splitOnP looks = stretches ++ [rest]
  total : progress.sent.toNat + (stretches.map sends).sum = plan.count.toNat
  sent : last.sent = plan.count
  largest : last.largest.toNat = (stretches.map sends).foldl max progress.largest.toNat

/-- A burst and a look at the schedule come before the stretches of the rest of the loop. -/
theorem Stretched.cons
    {later : Progress}
    {burst asked : List Sending.Request}
    {stretches : List (List Sending.Request)}
    (unbroken : Unbroken burst)
    (counted : later.sent.toNat = progress.sent.toNat + sends burst)
    (noted : later.largest.toNat = max progress.largest.toNat (sends burst))
    (stretched : Stretched plan later last asked stretches) :
    Stretched plan progress last (burst ++ .clock .schedule :: asked) (burst :: stretches) where
  split := by
    intro rest alsoUnbroken
    rw [List.append_assoc, List.cons_append, List.splitOnP_append_cons _ _ rfl,
      unbroken.splitOnP_looks, stretched.split rest alsoUnbroken]
    rfl
  total := by
    rw [List.map_cons, List.sum_cons, ← Nat.add_assoc, ← counted]
    exact stretched.total
  sent := stretched.sent
  largest := by
    rw [List.map_cons, List.foldl_cons, ← noted]
    exact stretched.largest

/-- Once all messages are sent, the loop asks nothing more. -/
theorem exists_stretched_of_complete
    {start now : UInt64}
    {steps : Nat}
    (within : progress.sent ≤ plan.count)
    (complete : ¬ progress.sent < plan.count)
    (ends : station.runAmid confirmations
      (catchUpFrom linkName plan start steps now progress) = (some (none, last), after)) :
    exists stretches,
      Stretched plan progress last
        (station.asked confirmations (catchUpFrom linkName plan start steps now progress))
        stretches := by
  rw [CatchUp.catchUpFrom_of_complete complete] at ends ⊢
  obtain ⟨⟨⟩, rfl⟩ := Prod.mk.inj ends
  have all : progress.sent = plan.count :=
    UInt64.le_antisymm within (UInt64.not_lt.mp complete)
  exact
    ⟨[],
      { split := fun rest unbroken => unbroken.splitOnP_looks
        total := congrArg UInt64.toNat all
        sent := all
        largest := rfl }⟩

/-- An iteration that meets no refusal sends a burst of the size that it noted before, and looks
at the schedule again. -/
theorem exists_iteration_of_left
    {start now : UInt64}
    {steps : Nat}
    (left : progress.sent < plan.count)
    (ends : station.runAmid confirmations
      (catchUpFrom linkName plan start (steps + 1) now progress) =
        (some (none, last), after)) :
    exists (sent : List Sending.Request) (later : Progress) (polled : Station) (reading : UInt64),
      Unbroken sent ∧ later.sent ≤ plan.count ∧
        later.sent.toNat = progress.sent.toNat + sends sent ∧
        later.largest.toNat = max progress.largest.toNat (sends sent) ∧
        polled.runAmid confirmations (catchUpFrom linkName plan start steps reading later) =
          (some (none, last), after) ∧
        station.asked confirmations
            (catchUpFrom linkName plan start (steps + 1) now progress) =
          sent ++ .clock .schedule ::
            polled.asked confirmations (catchUpFrom linkName plan start steps reading later) := by
  rw [catchUpFrom, if_pos left] at ends ⊢
  extract_lets due missing largest at ends
  extract_lets
  cases bursts : station.runAmid confirmations
      (burst linkName plan.timestamp missing.toNat { progress with largest := largest }) with
  | mk outcome middle =>
  obtain _ | ⟨_ | failure, later⟩ := outcome
  · rw [Station.runAmid_bind_of_none bursts] at ends
    cases (Prod.mk.inj ends).1
  · obtain ⟨unbroken, size, sent, noted⟩ := asked_burst bursts
    obtain ⟨polled, reads, _⟩ := middle.runAmid_readClock confirmations .schedule
    rw [Station.runAmid_bind bursts] at ends
    dsimp only at ends
    rw [Station.runAmid_bind reads] at ends
    -- What is missing is left of the plan, so the count of sent messages does not wrap.
    have room : progress.sent.toNat + missing.toNat ≤ plan.count.toNat :=
      Schedule.add_missing_le (UInt64.le_of_lt left) _ _
    have counted : later.sent.toNat = progress.sent.toNat + missing.toNat := by
      rw [sent]
      exact Word.toNat_add_ofNat (Nat.lt_of_le_of_lt room plan.count.toNat_lt)
    have largestNoted : later.largest.toNat = max progress.largest.toNat missing.toNat := by
      rw [noted, Nat.max_comm, ← Word.toNat_max, Word.max_eq_ite]
    refine ⟨_, later, polled, _, unbroken, ?_, ?_, ?_, ends, ?_⟩
    · rw [UInt64.le_iff_toNat_le, counted]
      exact room
    · rw [size, counted]
    · rw [size, largestNoted]
    · rw [Station.asked_bind bursts]
      dsimp only
      rw [Station.asked_bind reads]
      rfl
  · rw [Station.runAmid_bind bursts] at ends
    cases (Prod.mk.inj ends).1

/-- A catch-up loop that meets no refusal sends in each burst what it noted before, whatever
its clock. -/
theorem asked_catchUpFrom
    {start now : UInt64}
    {steps : Nat}
    (within : progress.sent ≤ plan.count)
    (ends : station.runAmid confirmations
      (catchUpFrom linkName plan start steps now progress) = (some (none, last), after)) :
    exists stretches,
      Stretched plan progress last
        (station.asked confirmations (catchUpFrom linkName plan start steps now progress))
        stretches := by
  induction steps generalizing station now progress with
  | zero =>
      by_cases left : progress.sent < plan.count
      · rw [catchUpFrom, if_pos left] at ends
        cases (Prod.mk.inj ends).1
      · exact exists_stretched_of_complete within left ends
  | succ steps hypothesis =>
      by_cases left : progress.sent < plan.count
      · obtain ⟨sent, later, polled, reading, unbroken, within, counted, noted, goesOn,
          asked⟩ :=
          exists_iteration_of_left left ends
        obtain ⟨stretches, stretched⟩ := hypothesis within goesOn
        rw [asked]
        exact ⟨sent :: stretches, stretched.cons unbroken counted noted⟩
      · exact exists_stretched_of_complete within left ends

/-- What a delayed loop has asked that launched one message without a break and then went on
with the others. -/
structure LaunchedOne
    (confirmations : Confirmations)
    (linkName : String)
    (delay : Duration)
    (plan : Plan)
    (remaining : Nat)
    (progress later : Progress)
    (launched : Station)
    (asked launch : List Sending.Request) : Prop where
  unbroken : Unbroken launch
  one : sends launch = 1
  sent : later.sent = progress.sent + 1
  largest : later.largest = progress.largest
  asked_eq : asked =
    launch ++ launched.asked confirmations (delayedFrom linkName delay plan remaining later)

/-- A delayed loop waits, unless its next message is the first one of the run, and launches that
message. -/
theorem exists_delayedFrom_succ
    (linkName : String)
    (delay : Duration)
    (plan : Plan)
    (remaining : Nat)
    (progress : Progress) :
    exists next : Option TransportFault × Buffer -> Sending (Option Failure × Progress),
      let launches := Sending.launch plan.timestamp progress.buffer >>= next
      delayedFrom linkName delay plan (remaining + 1) progress =
          (if 0 < progress.sent then Sending.wait delay >>= fun _ => launches else launches) ∧
        (forall fault buffer,
          next (some fault, buffer) =
            Sending.refused linkName .delayedLoop progress.sent progress.largest fault >>=
              fun failure => pure (some failure, { progress with buffer := buffer })) ∧
        forall buffer,
          next (none, buffer) =
            delayedFrom linkName delay plan remaining
              { progress with sent := progress.sent + 1, buffer := buffer } :=
  ⟨_, rfl, fun _ _ => rfl, fun _ => rfl⟩

/-- A delayed loop that meets no refusal waits, unless its next message is the first one of the
run, then launches that message and goes on. -/
theorem exists_launchedOne
    {delay : Duration}
    (ends : station.runAmid confirmations
      (delayedFrom linkName delay plan (remaining + 1) progress) = (some (none, last), after)) :
    exists later launched asked launch,
      LaunchedOne confirmations linkName delay plan remaining progress later launched asked
          launch ∧
        launched.runAmid confirmations (delayedFrom linkName delay plan remaining later) =
          (some (none, last), after) ∧
        station.asked confirmations (delayedFrom linkName delay plan (remaining + 1) progress) =
          (if 0 < progress.sent then [.wait delay] else []) ++ asked := by
  obtain ⟨next, unrolls, refusing, resumes⟩ :=
    exists_delayedFrom_succ linkName delay plan remaining progress
  rw [unrolls] at ends ⊢
  have launchedOne
      {station : Station}
      (ends : station.runAmid confirmations
        (Sending.launch plan.timestamp progress.buffer >>= next) = (some (none, last), after)) :
      exists later launched launch,
        LaunchedOne confirmations linkName delay plan remaining progress later launched
            (station.asked confirmations
              (Sending.launch plan.timestamp progress.buffer >>= next)) launch ∧
          launched.runAmid confirmations (delayedFrom linkName delay plan remaining later) =
            (some (none, last), after) := by
    obtain ⟨buffer, launched, runs, goesOn⟩ := exists_launch_of_unrefused refusing ends
    obtain ⟨unbroken, one⟩ :=
      station.asked_launch confirmations plan.timestamp progress.buffer
    let later : Progress := { progress with sent := progress.sent + 1, buffer := buffer }
    rw [Station.asked_bind runs, resumes]
    rw [resumes] at goesOn
    exact ⟨later, launched, _, ⟨unbroken, one, rfl, rfl, rfl⟩, goesOn⟩
  by_cases begun : 0 < progress.sent
  · rw [if_pos begun] at ends ⊢
    obtain ⟨later, launched, launch, one, goesOn⟩ := launchedOne ends
    refine ⟨later, launched, _, launch, one, goesOn, ?_⟩
    rw [if_pos begun]
    rfl
  · rw [if_neg begun] at ends ⊢
    obtain ⟨later, launched, launch, one, goesOn⟩ := launchedOne ends
    refine ⟨later, launched, _, launch, one, goesOn, ?_⟩
    rw [if_neg begun]
    rfl

/-- A delayed loop that goes on with a run waits before each of its messages. What the run has
asked since its last wait before belongs to the first stretch. -/
theorem asked_delayedFrom
    {delay : Duration}
    (begun : 0 < progress.sent)
    (room : progress.sent.toNat + remaining < 2 ^ 64)
    (ends : station.runAmid confirmations
      (delayedFrom linkName delay plan remaining progress) = (some (none, last), after)) :
    let asked :=
      station.asked confirmations (delayedFrom linkName delay plan remaining progress)
    last.sent.toNat = progress.sent.toNat + remaining ∧ last.largest = progress.largest ∧
      forall before rest, Unbroken before -> Unbroken rest -> sends rest = 0 ->
        ((before ++ (asked ++ rest)).splitOnP waits).map sends =
          sends before :: List.replicate remaining 1 := by
  induction remaining generalizing station progress with
  | zero =>
      obtain ⟨⟨⟩, rfl⟩ := Prod.mk.inj ends
      refine ⟨rfl, rfl, fun before rest unbroken alsoUnbroken none => ?_⟩
      change ((before ++ rest).splitOnP waits).map sends = _
      rw [(unbroken.append alsoUnbroken).splitOnP_waits]
      simp [none]
  | succ remaining hypothesis =>
      obtain ⟨later, launched, asked, launch, one, goesOn, waited⟩ := exists_launchedOne ends
      have counted : later.sent.toNat = progress.sent.toNat + 1 := by
        rw [one.sent]
        exact Word.toNat_add_ofNat (show progress.sent.toNat + 1 < 2 ^ 64 by omega)
      have further : 0 < later.sent := by
        rw [UInt64.lt_iff_toNat_lt, counted]
        exact Nat.succ_pos _
      obtain ⟨sent, largest, parts⟩ := hypothesis further (by omega) goesOn
      refine ⟨by omega, largest.trans one.largest, fun before rest free alsoFree none => ?_⟩
      -- The wait ends the stretch before, and the launch begins the next one.
      rw [waited, if_pos begun, one.asked_eq, List.append_assoc, List.append_assoc,
        List.singleton_append, List.splitOnP_append_cons _ _ rfl, free.splitOnP_waits,
        List.map_append, parts launch rest one.unbroken alsoFree none, one.one]
      rfl

/-! ## Runs -/

/-- How the progress of a loop that has sent its plan agrees with the bursts of some requests. -/
structure Accounts
    (pacing : Pacing)
    (plan : Plan)
    (requests : List Sending.Request)
    (last : Progress) : Prop where
  sent : last.sent = plan.count
  total : (pacing.bursts requests).sum = plan.count.toNat
  largest : last.largest.toNat = pacing.largest requests
  single : forall delay, pacing = .delayed delay ->
    pacing.bursts requests = List.replicate plan.count.toNat 1

theorem Stretched.accounts
    {buffer : Buffer}
    {asked rest : List Sending.Request}
    {stretches : List (List Sending.Request)}
    (stretched : Stretched plan ⟨0, 0, buffer⟩ last asked stretches)
    (unbroken : Unbroken rest) :
    Accounts .catchUp plan (.clock .schedule :: asked ++ rest) last := by
  have bursts : Pacing.bursts .catchUp (.clock .schedule :: asked ++ rest) =
      stretches.map sends := by
    have split : (.clock .schedule :: asked ++ rest).splitOnP looks =
        [] :: (stretches ++ [rest]) :=
      (List.splitOnP_append_cons [] _ rfl).trans
        (congrArg ([] :: ·) (stretched.split rest unbroken))
    rw [Pacing.bursts, split, List.tail_cons, List.dropLast_concat]
  exact
    { sent := stretched.sent
      total := by
        rw [bursts, ← stretched.total]
        exact (Nat.zero_add _).symm
      largest := by
        rw [Pacing.largest, bursts, stretched.largest, List.foldl_max]
        exact Nat.zero_max _
      single := nofun }

theorem accounts_catchUp
    {steps : Nat}
    {rest : List Sending.Request}
    {pacer : Pacer}
    (paced : pacer.pacing = .catchUp)
    (unbroken : Unbroken rest)
    (ends : station.runAmid confirmations (pacer.loop linkName steps plan) =
      (some (none, last), after)) :
    Accounts .catchUp plan
      (station.asked confirmations (pacer.loop linkName steps plan) ++ rest) last := by
  rw [loop, paced] at ends ⊢
  obtain ⟨origin, reads, _⟩ := station.runAmid_readClock confirmations .schedule
  dsimp only at ends ⊢
  rw [Station.runAmid_bind reads] at ends
  obtain ⟨stretches, stretched⟩ := asked_catchUpFrom UInt64.zero_le ends
  rw [Station.asked_bind reads]
  exact stretched.accounts unbroken

/-- A delayed run whose bursts are single messages has noted that its largest burst is one
message, unless it has sent none. -/
theorem Accounts.of_single
    {delay : Duration}
    {requests : List Sending.Request}
    (single : Pacing.bursts (.delayed delay) requests = List.replicate plan.count.toNat 1)
    (sent : last.sent = plan.count)
    (largest : last.largest = if plan.count = 0 then 0 else 1) :
    Accounts (.delayed delay) plan requests last where
  sent := sent
  total := by
    rw [single, List.sum_replicate_nat, Nat.mul_one]
  largest := by
    rw [Pacing.largest, single, List.max?_replicate, largest]
    have same : plan.count.toNat = 0 ↔ plan.count = 0 :=
      ⟨fun zero => UInt64.toNat_inj.mp zero, congrArg UInt64.toNat⟩
    simp only [same]
    split <;> rfl
  single := fun _ _ => single

theorem accounts_delayed
    {steps : Nat}
    {rest : List Sending.Request}
    {pacer : Pacer}
    {delay : Duration}
    (paced : pacer.pacing = .delayed delay)
    (unbroken : Unbroken rest)
    (silent : sends rest = 0)
    (ends : station.runAmid confirmations (pacer.loop linkName steps plan) =
      (some (none, last), after)) :
    Accounts (.delayed delay) plan
      (station.asked confirmations (pacer.loop linkName steps plan) ++ rest) last := by
  rw [loop, paced] at ends ⊢
  dsimp only at ends ⊢
  cases count : plan.count.toNat with
  | zero =>
      have empty : plan.count = 0 := UInt64.toNat_inj.mp count
      rw [count] at ends
      obtain ⟨⟨⟩, rfl⟩ := Prod.mk.inj ends
      refine .of_single ?_ empty.symm rfl
      change ((rest.splitOnP waits).map sends).filter (0 < ·) = _
      rw [unbroken.splitOnP_waits, count]
      simp [silent]
  | succ remaining =>
      rw [count] at ends
      obtain ⟨later, launched, asked, launch, one, goesOn, first⟩ := exists_launchedOne ends
      have bound := plan.count.toNat_lt
      have counted : later.sent.toNat = 1 := congrArg UInt64.toNat one.sent
      have begun : 0 < later.sent := by
        rw [UInt64.lt_iff_toNat_lt, counted]
        exact Nat.one_pos
      obtain ⟨sent, largest, parts⟩ := asked_delayedFrom begun (by omega) goesOn
      refine .of_single ?_ (UInt64.toNat_inj.mp (by omega)) (largest.trans one.largest)
      rw [Pacing.bursts, first, if_neg (UInt64.lt_irrefl 0), List.nil_append, one.asked_eq,
        List.append_assoc, parts launch rest one.unbroken unbroken silent, one.one, count]
      simp [List.replicate_succ]

/-- A run that ends concludes as its loop has ended. -/
theorem exists_loop_of_run
    {steps : Nat}
    {pacer left : Pacer}
    {outcome : Except Failure UInt64}
    (ends : station.runAmid confirmations (pacer.run linkName steps plan) =
      (some (outcome, left), after)) :
    exists result middle,
      station.runAmid confirmations (pacer.loop linkName steps plan) = (some result, middle) ∧
        CatchUp.conclude pacer result = (outcome, left) := by
  cases loops : station.runAmid confirmations (pacer.loop linkName steps plan) with
  | mk result middle =>
      cases result with
      | none =>
          rw [run, Station.runAmid_bind_of_none loops] at ends
          cases (Prod.mk.inj ends).1
      | some result =>
          obtain ⟨noted, runs, _⟩ := CatchUp.run_of_loop loops
          rw [ends] at runs
          exact ⟨result, middle, rfl, (Option.some.inj (Prod.mk.inj runs).1).symm⟩

/-- A run that ends in success leaves behind the size of its largest burst. -/
theorem accounts_run
    {steps : Nat}
    {pacer left : Pacer}
    {count : UInt64}
    (ends : station.runAmid confirmations (pacer.run linkName steps plan) =
      (some (.ok count, left), after)) :
    exists last,
      Accounts pacer.pacing plan (station.asked confirmations (pacer.run linkName steps plan))
          last ∧
        count = last.sent ∧ left.largestBurst = last.largest := by
  obtain ⟨⟨_ | failure, last⟩, middle, loops, concludes⟩ := exists_loop_of_run ends
  · obtain ⟨⟨⟩, rfl⟩ := Prod.mk.inj concludes
    obtain ⟨entry, asked⟩ : exists entry,
        station.asked confirmations (pacer.run linkName steps plan) =
          station.asked confirmations (pacer.loop linkName steps plan) ++ [.note entry] :=
      ⟨_, Station.asked_bind loops _⟩
    have unbroken : Unbroken [.note entry] := by
      intro request member
      obtain rfl := List.mem_singleton.mp member
      exact ⟨rfl, rfl⟩
    refine ⟨last, ?_, rfl, rfl⟩
    rw [asked]
    cases paced : pacer.pacing with
    | catchUp => exact accounts_catchUp paced unbroken loops
    | delayed delay => exact accounts_delayed paced unbroken rfl loops
  · cases (Prod.mk.inj concludes).1

/-- A run that fails leaves the size of the largest burst as it was. -/
theorem largestBurst_of_failed
    {steps : Nat}
    {pacer left : Pacer}
    {failure : Failure}
    (ends : station.runAmid confirmations (pacer.run linkName steps plan) =
      (some (.error failure, left), after)) :
    left.largestBurst = pacer.largestBurst := by
  obtain ⟨⟨_ | failure, last⟩, middle, loops, concludes⟩ := exists_loop_of_run ends
  · cases (Prod.mk.inj concludes).1
  · obtain ⟨⟨⟩, rfl⟩ := Prod.mk.inj concludes
    rfl

/-! ## Runs one after the other -/

/-- A run of a pacer that has come to an end. -/
structure Performance where
  plan : Plan
  /-- What the run has asked, in order. -/
  requests : List Sending.Request
  outcome : Except Failure UInt64

/-- The runs that a pacer was used for since it was created, in order. They may have been at
any stations, by any clocks and amid any confirmations. -/
inductive Performed (pacing : Pacing) (length : UInt64) : List Performance -> Pacer -> Prop
  | created {pacer : Pacer}
      (creates : create pacing length = .ok pacer) :
      Performed pacing length [] pacer
  | run {performances : List Performance} {pacer left : Pacer} {linkName : String}
      {steps : Nat} {plan : Plan} {confirmations : Confirmations} {station after : Station}
      {outcome : Except Failure UInt64}
      (performed : Performed pacing length performances pacer)
      (ends : station.runAmid confirmations (pacer.run linkName steps plan) =
        (some (outcome, left), after)) :
      Performed pacing length
        (performances ++
          [⟨plan, station.asked confirmations (pacer.run linkName steps plan), outcome⟩])
        left

/-- The last run that has succeeded. -/
def lastSuccess (performances : List Performance) : Option Performance :=
  (performances.filter fun performance => performance.outcome.isOk).getLast?

theorem lastSuccess_of_failed
    (performances : List Performance)
    (plan : Plan)
    (requests : List Sending.Request)
    (failure : Failure) :
    lastSuccess (performances ++ [⟨plan, requests, .error failure⟩]) =
      lastSuccess performances := by
  unfold lastSuccess
  rw [List.filter_append]
  exact congrArg List.getLast? (List.append_nil _)

theorem lastSuccess_of_ok
    (performances : List Performance)
    (plan : Plan)
    (requests : List Sending.Request)
    (count : UInt64) :
    lastSuccess (performances ++ [⟨plan, requests, .ok count⟩]) =
      some ⟨plan, requests, .ok count⟩ := by
  unfold lastSuccess
  rw [List.filter_append]
  exact List.getLast?_concat

/-- What holds of the bursts of a run that has succeeded. -/
structure Performance.Sound (pacing : Pacing) (performance : Performance) : Prop where
  outcome : performance.outcome = .ok performance.plan.count
  total : (pacing.bursts performance.requests).sum = performance.plan.count.toNat
  le_count : pacing.largest performance.requests ≤ performance.plan.count.toNat
  positive : 1 ≤ performance.plan.count -> 1 ≤ pacing.largest performance.requests
  single : forall delay, pacing = .delayed delay ->
    pacing.bursts performance.requests = List.replicate performance.plan.count.toNat 1

/-- The bursts of a loop that has sent its plan are those of a run that has succeeded. -/
theorem Accounts.sound
    {pacing : Pacing}
    {requests : List Sending.Request}
    (accounts : Accounts pacing plan requests last) :
    Performance.Sound pacing ⟨plan, requests, .ok last.sent⟩ where
  outcome := congrArg Except.ok accounts.sent
  total := accounts.total
  le_count := by
    rw [← accounts.total]
    exact pacing.largest_le_sum requests
  positive := by
    intro positive
    apply Pacing.largest_pos
    rw [accounts.total]
    exact UInt64.le_iff_toNat_le.mp positive
  single := accounts.single

theorem Performed.used
    {pacing : Pacing}
    {length : UInt64}
    {performances : List Performance}
    {pacer : Pacer}
    (performed : Performed pacing length performances pacer) :
    Used pacing length pacer := by
  induction performed with
  | created creates => exact .created creates
  | run _ ends hypothesis => exact .run hypothesis (congrArg Prod.fst ends)

/-- A run fails and leaves the size of the largest burst as it was, or it succeeds and leaves
behind that of its own. -/
theorem Performed.cases_run
    {pacing : Pacing}
    {length : UInt64}
    {performances : List Performance}
    {pacer left : Pacer}
    {steps : Nat}
    {outcome : Except Failure UInt64}
    (performed : Performed pacing length performances pacer)
    (ends : station.runAmid confirmations (pacer.run linkName steps plan) =
      (some (outcome, left), after)) :
    let requests := station.asked confirmations (pacer.run linkName steps plan)
    (exists failure, outcome = .error failure ∧ left.largestBurst = pacer.largestBurst) ∨
      exists count,
        outcome = .ok count ∧ left.largestBurst.toNat = pacing.largest requests ∧
          Performance.Sound pacing ⟨plan, requests, .ok count⟩ := by
  intro requests
  cases outcome with
  | error failure => exact .inl ⟨failure, rfl, largestBurst_of_failed ends⟩
  | ok count =>
      obtain ⟨last, accounts, rfl, largest⟩ := accounts_run ends
      rw [performed.used.kept.2.1] at accounts
      refine .inr ⟨last.sent, rfl, ?_, accounts.sound⟩
      rw [largest, accounts.largest]

/-- What a pacer tells after any runs is the size of the largest burst of the last one that
has succeeded, and a run that fails leaves it as it was. In a run that has succeeded the
bursts make up the plan, so the largest one is a message at least, if there are any, and no
more than all of them. The bursts of a delayed pacer are single messages. -/
theorem largestBurst_is_of_last_success
    {pacing : Pacing}
    {length : UInt64}
    {performances : List Performance}
    {pacer : Pacer}
    (performed : Performed pacing length performances pacer) :
    pacer.largestBurst.toNat =
        (lastSuccess performances).elim 0 (fun latest => pacing.largest latest.requests) ∧
      (forall performance, performance ∈ performances -> performance.outcome.isOk ->
        performance.Sound pacing) ∧
      forall linkName steps plan confirmations station failure left after,
        Station.runAmid confirmations station (pacer.run linkName steps plan) =
            (some (.error failure, left), after) ->
          left.largestBurst = pacer.largestBurst := by
  refine ⟨?_, ?_, fun _ _ _ _ _ _ _ _ ends => largestBurst_of_failed ends⟩
  · induction performed with
    | created creates =>
        unfold create at creates
        split at creates
        · obtain rfl := Except.ok.inj creates
          rfl
        · contradiction
    | run performed ends hypothesis =>
        rcases performed.cases_run ends with ⟨failure, rfl, same⟩ | ⟨count, rfl, largest, _⟩
        · rw [same, lastSuccess_of_failed]
          exact hypothesis
        · rw [largest, lastSuccess_of_ok]
          rfl
  · induction performed with
    | created _ => exact fun performance member => absurd member List.not_mem_nil
    | run performed ends hypothesis =>
        intro performance member succeeded
        rcases List.mem_append.mp member with earlier | latest
        · exact hypothesis performance earlier succeeded
        · obtain rfl := List.mem_singleton.mp latest
          rcases performed.cases_run ends with ⟨failure, rfl, _⟩ | ⟨count, rfl, _, sound⟩
          · contradiction
          · exact sound

/-- On a clock that goes back a run sends one message, then three, none and one. The next run
is to send eight at once, of which the third is refused. -/
theorem largestBurst_after_refused_message :
    let station :=
      Station.start (fun reading => [0, 350000000, 100000000, 2000000000].getD reading 0)
        (fun _ _ => none) .empty
    let refusing :=
      Station.start (fun reading => [0, 2000000000].getD reading 0)
        (fun attempt _ => if attempt = 3 then some .disconnected else none) .empty
    let created : Pacer := ⟨.catchUp, Buffer.zeroed 24 (by decide), 0⟩
    let plan : Plan := ⟨5, 10, false⟩
    let requests := station.asked .none (created.run "loopback" 9 plan)
    exists used failure left,
      let refused := refusing.asked .none (Pacer.run "loopback" 9 plan used)
      Performed .catchUp 24
          [⟨plan, requests, .ok 5⟩, ⟨plan, refused, .error failure⟩] left ∧
        Pacing.bursts .catchUp requests = [1, 3, 0, 1] ∧ left.largestBurst.toNat = 3 := by
  intro station refusing created plan requests
  have computed :
      (match station.runAmid .none (created.run "loopback" 9 plan) with
        | (some (.ok _, used), _) =>
            match refusing.runAmid .none (used.run "loopback" 9 plan) with
            | (some (.error _, _), _) => true
            | (some (.ok _, _), _) | (none, _) => false
        | (some (.error _, _), _) | (none, _) => false) = true := by
    decide +kernel
  have bursts : Pacing.bursts .catchUp requests = [1, 3, 0, 1] := by decide +kernel
  split at computed
  · next count used after succeeds =>
      split at computed
      · next failure left last fails =>
          have begins : Performed .catchUp 24 [] created := .created rfl
          have performed := (begins.run succeeds).run fails
          obtain ⟨largest, sound, _⟩ := largestBurst_is_of_last_success performed
          rw [lastSuccess_of_failed, lastSuccess_of_ok, Option.elim_some, Pacing.largest,
            bursts] at largest
          rw [List.nil_append, List.singleton_append] at performed sound
          obtain rfl : count = 5 := Except.ok.inj (sound _ List.mem_cons_self rfl).outcome
          exact ⟨used, failure, left, performed, bursts, largest⟩
      · cases computed
      · cases computed
  · cases computed
  · cases computed

end Pacer
end Loops
end LatencyMeter
