import LatencyMeter.Proofs.Pacer.Bursts
import LatencyMeter.Proofs.Pacer.Timetable

/-!
# When a run comes to an end

A catch-up run polls the clock until all messages of its plan have been sent, and may poll in
vain. What it has sent was due by one of its readings, so it does not end before the last
message is due. And what is due by a reading that it polls is sent before it polls again. Each
iteration makes a reading of its own, so the run ends if all messages are due by all readings
from some one on.

A delayed run does not look at the clock, and ends in any case.
-/

namespace LatencyMeter

namespace Station

/-- By when the last message of a plan is due in a run that begins at a station. -/
def deadline (plan : Plan) (station : Station) : Nat :=
  (station.clock station.reads).toNat +
    ((plan.count.toNat - 1) * 1000000000) ⌈/⌉ plan.rate.toNat

/-- The clock comes to read the time by which the last message is due. -/
def Reaches (plan : Plan) (station : Station) : Prop :=
  exists reading,
    station.reads ≤ reading ∧ station.deadline plan ≤ (station.clock reading).toNat

/-- How many messages of a run that begins at a station are due by a reading. -/
def dueBy (plan : Plan) (station : Station) (reading : Nat) : Nat :=
  (Schedule.due (Word.minus (station.clock reading) (station.clock station.reads)) plan.rate
    plan.count).toNat

variable {plan : Plan} {station : Station} {reading : Nat}

/-- From the deadline on all messages are due. -/
theorem count_le_dueBy
    (rated : 1 ≤ plan.rate)
    (reached : station.deadline plan ≤ (station.clock reading).toNat) :
    plan.count.toNat ≤ station.dueBy plan reading := by
  have positive : 0 < plan.rate.toNat := UInt64.le_iff_toNat_le.mp rated
  have elapsed : ((plan.count.toNat - 1) * 1000000000) ⌈/⌉ plan.rate.toNat ≤
      (station.clock reading).toNat - (station.clock station.reads).toNat := by
    unfold deadline at reached
    omega
  rw [ceilDiv_le_iff_le_mul positive, Nat.mul_comm plan.rate.toNat] at elapsed
  have last := Schedule.lt_due_iff
    (Word.minus (station.clock reading) (station.clock station.reads)) plan.rate plan.count
    (plan.count.toNat - 1)
  rw [Word.toNat_minus] at last
  unfold dueBy
  rcases Nat.eq_zero_or_pos plan.count.toNat with empty | messages
  · omega
  · have due := last.mpr ⟨by omega, elapsed⟩
    omega

/-- Before the deadline the last message is not due. -/
theorem dueBy_lt_count
    (messages : 1 ≤ plan.count)
    (begun : (station.clock station.reads).toNat < station.deadline plan)
    (early : (station.clock reading).toNat < station.deadline plan) :
    station.dueBy plan reading < plan.count.toNat := by
  have positive : 1 ≤ plan.count.toNat := UInt64.le_iff_toNat_le.mp messages
  by_contra all
  have last : plan.count.toNat - 1 < station.dueBy plan reading := by omega
  have elapsed := ((Schedule.lt_due_iff _ _ _ _).mp last).2
  rw [Word.toNat_minus] at elapsed
  have passed := Pacer.CatchUp.ceilDiv_le_of_le_mul elapsed
  unfold deadline at begun early
  omega

/-- Without a rate one message is ever due. -/
theorem dueBy_of_rate_zero (still : plan.rate = 0) (reading : Nat) :
    station.dueBy plan reading = min plan.count.toNat 1 := by
  rw [dueBy, Schedule.toNat_due, still, UInt64.toNat_zero, Nat.mul_zero, Nat.zero_div]

end Station

namespace Pacer

/-- Whatever its bound, if it is large enough, a run sends all messages of its plan. -/
def Ends
    (confirmations : Confirmations)
    (linkName : String)
    (plan : Plan)
    (station : Station)
    (pacer : Pacer) : Prop :=
  exists enough, forall steps, enough ≤ steps ->
    exists left after,
      station.runAmid confirmations (pacer.run linkName steps plan) =
        (some (.ok plan.count, left), after)

/-- Whatever its bound, a run is cut off. -/
def NeverEnds
    (confirmations : Confirmations)
    (linkName : String)
    (plan : Plan)
    (station : Station)
    (pacer : Pacer) : Prop :=
  forall steps, (station.runAmid confirmations (pacer.run linkName steps plan)).1 = none

variable {confirmations : Confirmations} {linkName : String} {plan : Plan} {station : Station}
variable {pacer : Pacer}

/-! ## Catching up -/

namespace CatchUp

/-- How far a run that began at a station has come by its iterations, on any clock. The latest
reading is made for the iteration that is next or going on. All that is sent was due by some
reading, and all that was due by the reading of the iteration before is sent. -/
structure Served (plan : Plan) (station : Station) (point : Point) : Prop where
  latest : exists reading,
    station.reads ≤ reading ∧ reading < point.station.reads ∧
      station.reads + point.iterations ≤ reading + (if point.looked then 1 else 0) ∧
      point.now = station.clock reading
  due : exists reading,
    station.reads ≤ reading ∧ point.progress.sent.toNat ≤ station.dueBy plan reading
  served : point.looked = false -> 0 < point.iterations -> exists reading,
    station.reads + point.iterations ≤ reading + 1 ∧
      station.dueBy plan reading ≤ point.progress.sent.toNat

namespace Served

variable {buffer : Buffer} {point next : Point}

theorem outset
    {origin : Station}
    (leads : Station.Leads confirmations station
      [.read .schedule (station.clock station.reads)] 0 origin) :
    Served plan station (outset origin (station.clock station.reads) buffer) where
  latest :=
    ⟨station.reads, Nat.le_refl _, by simp [CatchUp.outset, leads.reads], Nat.le_refl _, rfl⟩
  due := ⟨station.reads, Nat.le_refl _, Nat.zero_le _⟩
  served _ positive := absurd positive (Nat.lt_irrefl 0)

theorem step
    (tally : Tally confirmations plan station buffer point)
    (served : Served plan station point)
    (step : Step confirmations plan (station.clock station.reads) point next) :
    Served plan station next := by
  obtain ⟨reading, begun, past, made, latest⟩ := served.latest
  have dueNow : (point.due plan (station.clock station.reads)).toNat =
      station.dueBy plan reading := by
    rw [Point.due, latest]
    rfl
  cases step with
  | look idle left =>
      refine ⟨⟨reading, begun, past, ?_, latest⟩, served.due,
        fun idle => absurd idle.symm Bool.false_ne_true⟩
      rw [idle, if_neg Bool.false_ne_true] at made
      rw [if_pos rfl]
      dsimp only
      omega
  | launch looked missing accepts leads =>
      have counted : (point.launched plan).sent.toNat = point.progress.sent.toNat + 1 :=
        Word.toNat_succ_of_lt missing
      rw [UInt64.lt_iff_toNat_lt, dueNow] at missing
      refine ⟨⟨reading, begun, ?_, made, latest⟩, ⟨reading, begun, ?_⟩, fun idle => ?_⟩
      · rw [leads.reads]
        omega
      · rw [counted]
        exact missing
      · cases looked.symm.trans idle
  | poll looked caughtUp leads =>
      rw [UInt64.lt_iff_toNat_lt, dueNow, Nat.not_lt] at caughtUp
      rw [looked, if_pos rfl] at made
      refine ⟨⟨point.station.reads, ?_, ?_, ?_, ?_⟩, served.due,
        fun _ _ => ⟨reading, made, caughtUp⟩⟩
      · omega
      · simp [leads.reads]
      · rw [if_neg Bool.false_ne_true]
        dsimp only
        omega
      · rw [tally.leads.clock]

theorem of_reached
    (reached : Reached confirmations plan station buffer point) :
    Served plan station point := by
  obtain ⟨origin, leads, passes⟩ := reached
  induction passes with
  | refl => exact outset leads
  | tail passed step hypothesis =>
      have tally : Tally confirmations plan station buffer _ :=
        Reached.tally ⟨origin, leads, passed⟩
      exact hypothesis.step tally step

end Served
end CatchUp

/-- A run ends if from some reading on all its messages are due by all readings. -/
theorem ends_of_due
    (paced : pacer.pacing = .catchUp)
    (willing : station.Willing)
    {reading : Nat}
    (begun : station.reads ≤ reading)
    (due : forall later, reading ≤ later -> plan.count.toNat ≤ station.dueBy plan later) :
    pacer.Ends confirmations linkName plan station := by
  refine ⟨reading - station.reads + 1, fun steps enough => ?_⟩
  obtain ⟨last, outcome, ended, after, course⟩ :=
    CatchUp.exists_run confirmations linkName steps plan paced station
  have served := CatchUp.Served.of_reached course.reached
  have runs := course.runs
  obtain ⟨_, idle, ⟨rfl, left⟩ | ⟨rfl, all⟩⟩ := course.ends_of_willing willing
  · have exhausted := course.exhausted rfl
    obtain ⟨latest, made, sent⟩ := served.served idle (by omega)
    have missing := due latest (by omega)
    rw [UInt64.lt_iff_toNat_lt] at left
    omega
  · rw [Option.map_some, CatchUp.conclude, all] at runs
    exact ⟨_, after, runs⟩

/-- A run never ends if its last message is due by no reading. -/
theorem neverEnds_of_not_due
    (paced : pacer.pacing = .catchUp)
    (willing : station.Willing)
    (early : forall reading, station.reads ≤ reading ->
      station.dueBy plan reading < plan.count.toNat) :
    pacer.NeverEnds confirmations linkName plan station := by
  intro steps
  obtain ⟨last, outcome, ended, after, course⟩ :=
    CatchUp.exists_run confirmations linkName steps plan paced station
  obtain ⟨reading, begun, due⟩ := (CatchUp.Served.of_reached course.reached).due
  rw [course.runs]
  obtain ⟨_, _, ⟨rfl, _⟩ | ⟨rfl, all⟩⟩ := course.ends_of_willing willing
  · rfl
  · have missing := early reading begun
    rw [all] at due
    omega

theorem ends_of_reaches
    (paced : pacer.pacing = .catchUp)
    (willing : station.Willing)
    (forward : station.Forward)
    (rated : 1 ≤ plan.rate)
    (reaches : station.Reaches plan) :
    pacer.Ends confirmations linkName plan station := by
  obtain ⟨reading, begun, reached⟩ := reaches
  refine ends_of_due paced willing begun fun later ordered => ?_
  apply Station.count_le_dueBy rated
  exact Nat.le_trans reached (UInt64.le_iff_toNat_le.mp (forward reading later ordered))

theorem neverEnds_of_early
    (paced : pacer.pacing = .catchUp)
    (willing : station.Willing)
    (messages : 1 ≤ plan.count)
    (early : forall reading, station.reads ≤ reading ->
      (station.clock reading).toNat < station.deadline plan) :
    pacer.NeverEnds confirmations linkName plan station := by
  refine neverEnds_of_not_due paced willing fun reading begun => ?_
  exact Station.dueBy_lt_count messages (early _ (Nat.le_refl _)) (early reading begun)

theorem ends_of_rate_zero
    (paced : pacer.pacing = .catchUp)
    (willing : station.Willing)
    (still : plan.rate = 0)
    (few : plan.count ≤ 1) :
    pacer.Ends confirmations linkName plan station := by
  refine ends_of_due paced willing (Nat.le_refl _) fun later _ => ?_
  rw [Station.dueBy_of_rate_zero still]
  exact Nat.le_min.mpr ⟨Nat.le_refl _, UInt64.le_iff_toNat_le.mp few⟩

theorem neverEnds_of_rate_zero
    (paced : pacer.pacing = .catchUp)
    (willing : station.Willing)
    (still : plan.rate = 0)
    (several : 2 ≤ plan.count) :
    pacer.NeverEnds confirmations linkName plan station := by
  refine neverEnds_of_not_due paced willing fun reading _ => ?_
  rw [Station.dueBy_of_rate_zero still]
  exact Nat.lt_of_le_of_lt (Nat.min_le_right _ _) (UInt64.le_iff_toNat_le.mp several)

/-! ## Waiting -/

theorem exists_delayedFrom
    (willing : station.Willing)
    (delay : Duration)
    (remaining : Nat)
    (progress : Progress) :
    exists last after,
      station.runAmid confirmations (delayedFrom linkName delay plan remaining progress) =
          (some (none, last), after) ∧
        last.sent = progress.sent + UInt64.ofNat remaining := by
  induction remaining generalizing progress station with
  | zero => exact ⟨progress, station, rfl, (UInt64.add_zero _).symm⟩
  | succ remaining hypothesis =>
      obtain ⟨next, unrolls, _, resumes⟩ :=
        exists_delayedFrom_succ linkName delay plan remaining progress
      have launches (station : Station) (willing : station.Willing) :
          exists last after,
            station.runAmid confirmations
                (Sending.launch plan.timestamp progress.buffer >>= next) =
                (some (none, last), after) ∧
              last.sent = progress.sent + UInt64.ofNat (remaining + 1) := by
        obtain ⟨launched, runs, leads⟩ :=
          Station.runAmid_launch confirmations station plan.timestamp progress.buffer
        rw [willing] at runs
        have willingStill : launched.Willing := by
          intro attempt message
          rw [leads.link]
          exact willing attempt message
        obtain ⟨last, after, goesOn, sent⟩ := hypothesis willingStill
          { progress with
            sent := progress.sent + 1
            buffer := progress.buffer.write (station.nextHeader plan.timestamp) }
        refine ⟨last, after, ?_, ?_⟩
        · rw [Station.runAmid_bind runs, resumes]
          exact goesOn
        · rw [sent, Nat.add_comm, UInt64.ofNat_add, ← UInt64.add_assoc]
          rfl
      rw [unrolls]
      split
      · exact launches (station.amid confirmations (.wait delay)) willing
      · exact launches station willing

/-- A delayed run ends, whatever the clock. -/
theorem ends_of_delayed
    {delay : Duration}
    (paced : pacer.pacing = .delayed delay)
    (willing : station.Willing) :
    pacer.Ends confirmations linkName plan station := by
  refine ⟨0, fun steps _ => ?_⟩
  obtain ⟨last, ended, loops, sent⟩ :=
    exists_delayedFrom willing delay plan.count.toNat
      ⟨0, if plan.count = 0 then 0 else 1, pacer.buffer⟩
  have looped : station.runAmid confirmations (pacer.loop linkName steps plan) =
      (some (none, last), ended) := by
    rw [loop, paced]
    exact loops
  obtain ⟨after, runs, _⟩ := CatchUp.run_of_loop looped
  have all : last.sent = plan.count := by
    rw [sent, UInt64.ofNat_toNat]
    exact UInt64.zero_add _
  rw [CatchUp.conclude, all] at runs
  exact ⟨_, after, runs⟩

end Pacer
end LatencyMeter
