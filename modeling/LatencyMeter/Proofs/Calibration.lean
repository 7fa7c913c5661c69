import LatencyMeter.Calibration
import Mathlib.Data.List.TakeWhile
import Mathlib.Order.Bounds.Basic

/-!
# What a calibration does

The machine on which a calibration runs decides by everything that has happened before whether
a core may be bound or why not, and what the workload comes to on it. A sweep binds and probes the cores
in ascending order. As long as cores are accepted there is only one way for it to go, so what
the machine answers to each core of a sweep is settled by the machine alone, and so is the
number of cores that a sweep reaches.
-/

namespace LatencyMeter
namespace Calibration

/-- What happens during a calibration. -/
inductive Event
  /-- An attempt to bind, which was accepted unless there is a fault. -/
  | bound (core : UInt64) (fault : Option AffinityFault)
  | probed (core : UInt64) (result : Except Failure UInt64)

namespace Event

/-- The core of an attempt to bind. -/
def attempt? : Event -> Option UInt64
  | .bound core _ => some core
  | .probed _ _ => none

/-- The core that the thread is bound to from here on. -/
def bound? : Event -> Option UInt64
  | .bound core none => some core
  | .bound _ (some _) | .probed _ _ => none

/-- The core of a probe, with its result. -/
def probe? : Event -> Option (UInt64 × Except Failure UInt64)
  | .bound _ _ => none
  | .probed core result => some (core, result)

end Event

/-- The core that the thread is bound to, if it is bound. -/
def boundTo (history : List Event) : Option UInt64 := (history.filterMap Event.bound?).getLast?

/-- Every probe was run on the core that the thread was bound to. -/
def ProbedAsBound (history : List Event) : Prop :=
  forall earlier core result,
    earlier ++ [.probed core result] <+: history -> boundTo earlier = some core

theorem probedAsBound_nil : ProbedAsBound [] := by
  intro earlier core result begins
  exact absurd (List.prefix_nil.mp begins) (by simp)

/-- Another event may happen, if it is a probe on the core that the thread is bound to or
none. -/
theorem ProbedAsBound.concat
    {history : List Event}
    (probed : ProbedAsBound history)
    {event : Event}
    (fits : forall core result, event = .probed core result -> boundTo history = some core) :
    ProbedAsBound (history ++ [event]) := by
  intro earlier core result begins
  rcases List.prefix_concat_iff.mp begins with whole | before
  · obtain ⟨rfl, same⟩ := List.append_inj' whole rfl
    exact fits core result (List.singleton_inj.mp same).symm
  · exact probed earlier core result before

/-- The surroundings of a calibration. -/
structure Machine where
  /-- Why a core may not be bound, if it may not, by what has happened before. -/
  refusal : List Event -> UInt64 -> Option AffinityFault
  /-- What the workload comes to on a core, by what has happened before. -/
  work : List Event -> UInt64 -> Except Failure UInt64

namespace Machine

variable (machine : Machine)

/-- Whether a core may be bound, by what has happened before. -/
def accepts (history : List Event) (core : UInt64) : Bool := (machine.refusal history core).isNone

variable {machine} in
theorem accepts_iff {history : List Event} {core : UInt64} :
    machine.accepts history core = true ↔ machine.refusal history core = none :=
  Option.isNone_iff_eq_none

variable {machine} in
theorem accepts_eq_false_iff {history : List Event} {core : UInt64} :
    machine.accepts history core = false ↔
      exists fault, machine.refusal history core = some fault := by
  rw [accepts, Option.isNone_eq_false_iff, Option.isSome_iff_exists]

/-- Answer one request. -/
def answer : (request : Request) -> List Event -> request.Answer × List Event
  | .bind core, history =>
      (machine.refusal history core, history ++ [.bound core (machine.refusal history core)])
  | .probe core, history =>
      (machine.work history core, history ++ [.probed core (machine.work history core)])
  | .note _, history => ((), history)

/-- Run a part of a calibration after something has happened. -/
def run (history : List Event) (program : Calibrating α) : Option α × List Event :=
  Program.run machine.answer program history

/-- What has happened when a sweep has bound and probed a number of cores. -/
def swept : Nat -> List Event
  | 0 => []
  | core + 1 =>
      let bound := swept core ++ [.bound (UInt64.ofNat core) none]
      bound ++ [.probed (UInt64.ofNat core) (machine.work bound (UInt64.ofNat core))]

/-- Whether a core may be bound when a sweep comes to it. -/
def admits (core : Nat) : Bool := machine.accepts (machine.swept core) (UInt64.ofNat core)

/-- What the workload comes to on a core of a sweep. -/
def workOn (core : Nat) : Except Failure UInt64 :=
  machine.work (machine.swept core ++ [.bound (UInt64.ofNat core) none]) (UInt64.ofNat core)

/-- How many cores a sweep of a length binds before the first one that is refused. -/
def reach (length : Nat) : Nat := ((List.range length).takeWhile machine.admits).length

/-! ## The reach of a sweep -/

/-- A sweep of one core more comes to that core only if it has refused none before. -/
theorem reach_succ (length : Nat) :
    machine.reach (length + 1) =
      if machine.reach length = length ∧ machine.admits length then
        length + 1
      else
        machine.reach length := by
  unfold reach
  rw [List.range_succ, List.takeWhile_append, List.length_range]
  by_cases all : ((List.range length).takeWhile machine.admits).length = length
  · cases admits : machine.admits length <;> simp [all, admits]
  · simp [all]

/-- A sweep binds the cores up to the first one that is refused, if there is one. -/
structure Reaches (length count : Nat) : Prop where
  within : count ≤ length
  accepted : forall core, core < count -> machine.admits core = true
  refused : count < length -> machine.admits count = false

theorem reaches_reach (length : Nat) : machine.Reaches length (machine.reach length) := by
  induction length with
  | zero => exact ⟨Nat.le_refl 0, nofun, nofun⟩
  | succ length hypothesis =>
      obtain ⟨within, accepted, refused⟩ := hypothesis
      rw [reach_succ]
      split
      · next further =>
        obtain ⟨all, admits⟩ := further
        refine ⟨Nat.le_refl _, fun core below => ?_, fun below => absurd below (Nat.lt_irrefl _)⟩
        rcases Nat.lt_succ_iff_lt_or_eq.mp below with earlier | rfl
        · exact accepted core (all.symm ▸ earlier)
        · exact admits
      · next stops =>
        refine ⟨Nat.le_succ_of_le within, accepted, fun _ => ?_⟩
        rcases Nat.lt_or_eq_of_le within with fewer | all
        · exact refused fewer
        · exact Bool.eq_false_iff.mpr fun admits => stops ⟨all, all ▸ admits⟩

/-! ## Sweeping -/

theorem run_bindTo
    (history : List Event)
    (core : UInt64)
    (next : Option AffinityFault -> Calibrating α) :
    machine.run history (bindTo core >>= next) =
      machine.run (history ++ [.bound core (machine.refusal history core)])
        (next (machine.refusal history core)) := rfl

theorem run_probeOn
    (history : List Event)
    (core : UInt64)
    (next : Except Failure UInt64 -> Calibrating α) :
    machine.run history (probeOn core >>= next) =
      machine.run (history ++ [.probed core (machine.work history core)])
        (next (machine.work history core)) := rfl

variable {machine} {core : Nat}

/-- A core that is refused ends the sweep. -/
theorem run_sweepFrom_of_refused
    (refused : machine.admits core = false)
    (remaining : Nat)
    (progress : Progress) :
    machine.run (machine.swept core)
        (sweepFrom (remaining + 1) (UInt64.ofNat core) progress) =
      (some (.ok progress),
        machine.swept core ++
          [.bound (UInt64.ofNat core)
            (machine.refusal (machine.swept core) (UInt64.ofNat core))]) := by
  obtain ⟨fault, refusal⟩ := accepts_eq_false_iff.mp refused
  rw [sweepFrom, run_bindTo, refusal]
  rfl

/-- A core that is bound and probed is followed by the next one. -/
theorem run_sweepFrom_of_probed
    (admits : machine.admits core = true)
    {sends : UInt64}
    (works : machine.workOn core = .ok sends)
    (remaining : Nat)
    (progress : Progress) :
    machine.run (machine.swept core)
        (sweepFrom (remaining + 1) (UInt64.ofNat core) progress) =
      machine.run (machine.swept (core + 1))
        (sweepFrom remaining (UInt64.ofNat (core + 1))
          ⟨progress.probes ++ [⟨UInt64.ofNat core, sends⟩],
            some (better progress.best ⟨UInt64.ofNat core, sends⟩)⟩) := by
  have works : machine.work (machine.swept core ++ [.bound (UInt64.ofNat core) none])
      (UInt64.ofNat core) = .ok sends := works
  rw [sweepFrom, run_bindTo, accepts_iff.mp admits]
  dsimp only
  rw [run_probeOn, works, swept, works, UInt64.ofNat_add]
  rfl

variable (machine)

/-- How much work is done on a core of a sweep, if the workload does not fail. -/
def score (core : Nat) : UInt64 := (machine.workOn core).toOption.getD 0

/-- The probes of a number of cores. -/
def probes (count : Nat) : List CoreProbe :=
  (List.range count).map fun core => ⟨UInt64.ofNat core, machine.score core⟩

/-- The progress of a sweep after a number of cores. -/
def progress (count : Nat) : Progress :=
  ⟨machine.probes count,
    (machine.probes count).foldl (fun best probe => some (better best probe)) none⟩

/-- What has happened when a sweep of a length has come to an end. -/
def sweptAll (length : Nat) : List Event :=
  machine.swept (machine.reach length) ++
    if machine.reach length < length then
      [.bound (UInt64.ofNat (machine.reach length))
        (machine.refusal (machine.swept (machine.reach length))
          (UInt64.ofNat (machine.reach length)))]
    else
      []

theorem progress_succ (core : Nat) :
    machine.progress (core + 1) =
      ⟨(machine.progress core).probes ++ [⟨UInt64.ofNat core, machine.score core⟩],
        some (better (machine.progress core).best ⟨UInt64.ofNat core, machine.score core⟩)⟩ := by
  unfold progress probes
  rw [List.range_succ, List.map_append, List.foldl_append]
  rfl

variable {machine}

/-- From any core that it reaches, a sweep goes on to the first one that is refused. -/
theorem run_sweepFrom
    {length : Nat}
    (works : forall core, core < machine.reach length ->
      machine.workOn core = .ok (machine.score core))
    {core remaining : Nat}
    (place : core + remaining = length)
    (reached : core ≤ machine.reach length) :
    machine.run (machine.swept core)
        (sweepFrom remaining (UInt64.ofNat core) (machine.progress core)) =
      (some (.ok (machine.progress (machine.reach length))), machine.sweptAll length) := by
  obtain ⟨within, accepted, refused⟩ := machine.reaches_reach length
  induction remaining generalizing core with
  | zero =>
      obtain rfl : core = length := place
      have all : machine.reach core = core := Nat.le_antisymm within reached
      rw [sweptAll, all, if_neg (Nat.lt_irrefl core), List.append_nil]
      rfl
  | succ remaining hypothesis =>
      rcases Nat.lt_or_eq_of_le reached with before | last
      · rw [run_sweepFrom_of_probed (accepted core before) (works core before), ← progress_succ]
        exact hypothesis (by omega) before
      · have short : machine.reach length < length := by omega
        rw [last, run_sweepFrom_of_refused (refused short), sweptAll, if_pos short]

/-! ## The choice -/

/-- A core on which more work was done than on the best one before is the best one now. -/
theorem isLeast_of_more
    {score : Nat -> UInt64}
    {count best : Nat}
    (least : IsLeast
      {core | core < count ∧ forall other, other < count -> score other ≤ score core} best)
    (more : score best < score count) :
    IsLeast
      {core | core < count + 1 ∧ forall other, other < count + 1 -> score other ≤ score core}
      count := by
  obtain ⟨⟨_, most⟩, _⟩ := least
  refine ⟨⟨Nat.lt_succ_self count, fun other below => ?_⟩, ?_⟩
  · rcases Nat.lt_succ_iff_lt_or_eq.mp below with earlier | rfl
    · exact UInt64.le_of_lt (UInt64.lt_of_le_of_lt (most other earlier) more)
    · exact UInt64.le_refl _
  · rintro core ⟨below, also⟩
    by_contra earlier
    have bounded := most core (Nat.not_le.mp earlier)
    have exceeds := UInt64.lt_of_lt_of_le more (also count (Nat.lt_succ_self count))
    exact UInt64.not_le.mpr exceeds bounded

/-- A core on which no more work was done than on the best one before changes nothing. -/
theorem isLeast_of_not_more
    {score : Nat -> UInt64}
    {count best : Nat}
    (least : IsLeast
      {core | core < count ∧ forall other, other < count -> score other ≤ score core} best)
    (notMore : ¬ score best < score count) :
    IsLeast
      {core | core < count + 1 ∧ forall other, other < count + 1 -> score other ≤ score core}
      best := by
  obtain ⟨⟨within, most⟩, first⟩ := least
  refine ⟨⟨Nat.lt_succ_of_lt within, fun other below => ?_⟩, ?_⟩
  · rcases Nat.lt_succ_iff_lt_or_eq.mp below with earlier | rfl
    · exact most other earlier
    · exact UInt64.not_lt.mp notMore
  · rintro core ⟨below, also⟩
    rcases Nat.lt_succ_iff_lt_or_eq.mp below with earlier | rfl
    · exact first ⟨earlier, fun other early => also other (Nat.lt_succ_of_lt early)⟩
    · exact Nat.le_of_lt within

/-- The best of some cores is the first one on which most work was done. -/
theorem exists_best
    (machine : Machine)
    {count : Nat}
    (positive : 0 < count) :
    exists best,
      IsLeast
          {core | core < count ∧
            forall other, other < count -> machine.score other ≤ machine.score core}
          best ∧
        (machine.progress count).best = some ⟨UInt64.ofNat best, machine.score best⟩ := by
  obtain ⟨rest, rfl⟩ := Nat.exists_eq_add_of_lt positive
  rw [Nat.zero_add]
  induction rest with
  | zero =>
      refine ⟨0, ⟨⟨Nat.one_pos, fun other below => ?_⟩, fun _ _ => Nat.zero_le _⟩, rfl⟩
      rw [Nat.lt_one_iff.mp below]
      exact UInt64.le_refl _
  | succ rest hypothesis =>
      obtain ⟨best, least, chosen⟩ := hypothesis (by omega)
      rw [progress_succ, chosen]
      dsimp only [better]
      by_cases more : machine.score best < machine.score (rest + 1)
      · rw [if_pos more]
        exact ⟨rest + 1, isLeast_of_more least more, rfl⟩
      · rw [if_neg more]
        exact ⟨best, isLeast_of_not_more least more, rfl⟩

theorem run_settle
    {best : CoreProbe}
    {progress : Progress}
    (chosen : progress.best = some best)
    {history : List Event}
    (accepts : machine.accepts history best.core = true) :
    machine.run history (settle progress) =
      (some (.ok ⟨best.core, progress.probes⟩), history ++ [.bound best.core none]) := by
  rw [settle, chosen]
  dsimp only
  rw [run_bindTo, accepts_iff.mp accepts]
  rfl

/-- A calibration whose workload does not fail settles on the progress of its sweep. -/
theorem run_eq_settle
    (limit : Option UInt64)
    (works : forall core, core < machine.reach (coreLimit limit) ->
      machine.workOn core = .ok (machine.score core)) :
    machine.run [] (Calibration.run limit) =
      machine.run (machine.sweptAll (coreLimit limit))
        (settle (machine.progress (machine.reach (coreLimit limit)))) := by
  have sweeps := run_sweepFrom works (Nat.zero_add (coreLimit limit)) (Nat.zero_le _)
  have swept : Program.run machine.answer (sweepFrom (coreLimit limit) 0 ⟨[], none⟩) [] =
      (some (.ok (machine.progress (machine.reach (coreLimit limit)))),
        machine.sweptAll (coreLimit limit)) := sweeps
  unfold Calibration.run run
  rw [Program.run_bind, swept]

/-! ## What has happened -/

/-- Every core of a sweep is probed right after it was bound. -/
theorem probedAsBound_swept (machine : Machine) (count : Nat) :
    ProbedAsBound (machine.swept count) := by
  induction count with
  | zero => exact probedAsBound_nil
  | succ count hypothesis =>
      have bound : ProbedAsBound (machine.swept count ++ [.bound (UInt64.ofNat count) none]) :=
        hypothesis.concat (by simp)
      refine bound.concat ?_
      rintro core result ⟨rfl, rfl⟩
      rw [boundTo, List.filterMap_append]
      exact List.getLast?_concat

theorem attempts_swept (machine : Machine) (count : Nat) :
    (machine.swept count).filterMap Event.attempt? = (List.range count).map UInt64.ofNat := by
  induction count with
  | zero => rfl
  | succ count hypothesis =>
      rw [swept, List.filterMap_append, List.filterMap_append, hypothesis, List.range_succ,
        List.map_append]
      simp [Event.attempt?]

theorem probes_swept
    {count : Nat}
    (works : forall core, core < count -> machine.workOn core = .ok (machine.score core)) :
    (machine.swept count).filterMap Event.probe? =
      (List.range count).map fun core => (UInt64.ofNat core, .ok (machine.score core)) := by
  induction count with
  | zero => rfl
  | succ count hypothesis =>
      have result := works count (Nat.lt_succ_self count)
      rw [workOn] at result
      rw [swept, List.filterMap_append, List.filterMap_append, result, List.range_succ,
        List.map_append, hypothesis fun core below => works core (Nat.lt_succ_of_lt below)]
      simp [Event.probe?]

/-- A calibration that tries up to 64 cores, fewer if it is limited, and whose workload does
not fail binds and probes the cores in order up to the first one that is refused. If it binds
any, it then binds the first one on which most work was done, and if this is accepted it ends
with that core and with all probes. -/
theorem run_settles_on_first_best
    (machine : Machine)
    (unfailing : forall history core, exists sends, machine.work history core = .ok sends)
    (limit : Option UInt64) :
    let length := limit.elim 64 fun limit => min limit.toNat 64
    let count := machine.reach length
    0 < count ->
      exists best,
        IsLeast
            {core | core < count ∧
              forall other, other < count -> machine.score other ≤ machine.score core}
            best ∧
          (machine.accepts (machine.sweptAll length) (UInt64.ofNat best) = true ->
            exists history,
              machine.run [] (Calibration.run limit) =
                  (some (.ok ⟨UInt64.ofNat best, machine.probes count⟩), history) ∧
                history.filterMap Event.attempt? =
                  (List.range count).map UInt64.ofNat ++
                    (if count < length then [UInt64.ofNat count] else []) ++
                    [UInt64.ofNat best] ∧
                boundTo history = some (UInt64.ofNat best) ∧
                history.filterMap Event.probe? =
                  ((List.range count).map fun core =>
                    (UInt64.ofNat core, .ok (machine.score core))) ∧
                ProbedAsBound history) := by
  intro length count positive
  have limited : coreLimit limit = length := by cases limit <;> rfl
  have works (core : Nat) : machine.workOn core = .ok (machine.score core) := by
    obtain ⟨sends, works⟩ := unfailing
      (machine.swept core ++ [.bound (UInt64.ofNat core) none]) (UInt64.ofNat core)
    rw [score, workOn, works]
    rfl
  obtain ⟨best, least, chosen⟩ := machine.exists_best positive
  refine ⟨best, least, fun accepts => ⟨machine.sweptAll length ++ [.bound (UInt64.ofNat best) none],
    ?_, ?_, ?_, ?_, ?_⟩⟩
  · rw [run_eq_settle limit fun core _ => works core, limited]
    exact run_settle chosen accepts
  · rw [List.filterMap_append, sweptAll, List.filterMap_append, attempts_swept]
    split <;> rfl
  · rw [boundTo, List.filterMap_append]
    exact List.getLast?_concat
  · rw [List.filterMap_append, sweptAll, List.filterMap_append,
      probes_swept fun core _ => works core]
    split <;> simp [Event.probe?, count]
  · refine ProbedAsBound.concat ?_ (by simp)
    unfold sweptAll
    split
    · exact (machine.probedAsBound_swept _).concat (by simp)
    · rw [List.append_nil]
      exact machine.probedAsBound_swept _

/-- The machine refuses a fourth core, and what the workload comes to depends on how much was
done before. Two cores do the same. -/
theorem settles_on_second_of_three :
    let machine : Machine :=
      ⟨fun history core =>
          if core < 3 ∧ history.length ≤ 7 then none else some (.bindRejected core),
        fun history _ => .ok (if history.length < 3 then 500 else 900)⟩
    (forall history core, exists sends, machine.work history core = .ok sends) ∧
      0 < machine.reach 64 ∧
      machine.accepts (machine.sweptAll 64) 1 = true ∧
      exists history,
        machine.run [] (Calibration.run (some 100)) =
            (some (.ok ⟨1, [⟨0, 500⟩, ⟨1, 900⟩, ⟨2, 900⟩]⟩), history) ∧
          history.filterMap Event.attempt? = [0, 1, 2, 3, 1] ∧
          boundTo history = some 1 ∧
          history.filterMap Event.probe? = [(0, .ok 500), (1, .ok 900), (2, .ok 900)] ∧
          ProbedAsBound history := by
  intro machine
  have unfailing (history : List Event) (core : UInt64) :
      exists sends, machine.work history core = .ok sends := ⟨_, rfl⟩
  have count : machine.reach 64 = 3 := by decide +kernel
  have accepts : machine.accepts (machine.sweptAll 64) 1 = true := by decide +kernel
  have positive : 0 < machine.reach 64 := by
    rw [count]
    decide
  obtain ⟨best, least, settles⟩ :=
    run_settles_on_first_best machine unfailing (some 100) positive
  have second : IsLeast
      {core | core < machine.reach 64 ∧
        forall other, other < machine.reach 64 -> machine.score other ≤ machine.score core}
      1 := by
    rw [count]
    refine ⟨by decide +kernel, ?_⟩
    rintro core ⟨_, most⟩
    by_contra earlier
    obtain rfl : core = 0 := by omega
    exact absurd (most 1 (by decide)) (by decide +kernel)
  obtain rfl : best = 1 := least.unique second
  obtain ⟨history, ran, attempts, bound, probes, probed⟩ := settles accepts
  have yields : machine.probes (machine.reach 64) = [⟨0, 500⟩, ⟨1, 900⟩, ⟨2, 900⟩] := by
    decide +kernel
  have scores : ((List.range 3).map fun core => (UInt64.ofNat core, machine.score core)) =
      [(0, 500), (1, 900), (2, 900)] := by
    decide +kernel
  change machine.run [] (Calibration.run (some 100)) =
    (some (.ok ⟨1, machine.probes (machine.reach 64)⟩), history) at ran
  change history.filterMap Event.attempt? =
    (List.range (machine.reach 64)).map UInt64.ofNat ++
      (if machine.reach 64 < 64 then [UInt64.ofNat (machine.reach 64)] else []) ++ [1] at attempts
  change history.filterMap Event.probe? =
    (List.range (machine.reach 64)).map fun core =>
      (UInt64.ofNat core, .ok (machine.score core)) at probes
  rw [yields] at ran
  rw [count] at attempts probes
  refine ⟨unfailing, positive, accepts, history, ran, attempts, bound, probes.trans ?_, probed⟩
  exact congrArg (List.map fun probe => (probe.1, Except.ok probe.2)) scores

end Machine
end Calibration
end LatencyMeter
