import LatencyMeter.Settings.Ping

/-!
# Which options are accepted

The options of a measurement have to meet a list of requirements, each with the fault of options
that do not meet it. Options are accepted exactly if they meet all of them, and otherwise are
refused with the fault of the first requirement that they miss.
-/

namespace LatencyMeter

/-- What options have to meet, and the fault of options that do not. -/
structure Requirement where
  met : Bool
  fault : ConfigFault

namespace Requirement

/-- The fault of the first requirement that is not met, if there is one. -/
def firstMissed (requirements : List Requirement) : Option ConfigFault :=
  (requirements.find? fun requirement => !requirement.met).map fault

/-- Refuse what does not meet a requirement. -/
def check (requirement : Requirement) : Except ConfigFault Unit :=
  if requirement.met then .ok () else .error requirement.fault

/-- Requirements are checked one after the other, up to the first one that is missed. -/
theorem forM_check (requirements : List Requirement) :
    requirements.forM check =
      match firstMissed requirements with
      | none => .ok ()
      | some fault => .error fault := by
  induction requirements with
  | nil => rfl
  | cons first rest hypothesis =>
      change (first.check >>= fun _ => rest.forM check) = _
      rw [firstMissed, List.find?_cons, check]
      cases first.met with
      | true => exact hypothesis
      | false => rfl

theorem firstMissed_eq_none_iff (requirements : List Requirement) :
    firstMissed requirements = none ↔
      forall requirement, requirement ∈ requirements -> requirement.met = true := by
  simp [firstMissed]

end Requirement

namespace PingOptions

/-- A core that is asked for has to be one of the first 1024. -/
def coreRequirement (core : Option UInt64) : Requirement :=
  ⟨core.all fun core => core < 1024, .cpuOutOfRange (core.getD 0) 1023⟩

/-- What the options of a measurement have to meet, in the order in which it is checked. -/
def requirements (options : PingOptions) : List Requirement :=
  [ ⟨0 < options.rate, .zero "rate"⟩,
    ⟨0 < options.count, .zero "number of messages"⟩,
    ⟨20 ≤ options.length, .messageTooShort options.length 20⟩,
    ⟨0 < options.geometry.bucketCount, .zero "histogram bucket count"⟩,
    ⟨0 < options.geometry.bucketWidth, .zero "histogram bucket width"⟩,
    ⟨options.geometry.bucketCount ≤ 268435456,
      .tooManyBuckets options.geometry.bucketCount 268435456⟩,
    ⟨options.warmup.loops ≤ 1 || 0 < options.warmup.rate, .warmupRate options.warmup.loops⟩,
    coreRequirement options.senderCpu,
    coreRequirement options.receiverCpu ]

/-- The options of a measurement that can be used. -/
structure Acceptable (options : PingOptions) : Prop where
  rate : 0 < options.rate
  count : 0 < options.count
  length : 20 ≤ options.length
  bucketCount : 0 < options.geometry.bucketCount
  bucketWidth : 0 < options.geometry.bucketWidth
  buckets : options.geometry.bucketCount.toNat ≤ Nat.pow 2 28
  warmup : options.warmup.loops ≤ 1 ∨ 0 < options.warmup.rate
  senderCpu : forall core, options.senderCpu = some core -> core < 1024
  receiverCpu : forall core, options.receiverCpu = some core -> core < 1024

/-! ## The checks -/

theorem positive_eq_check (name : String) (value : UInt64) :
    Check.positive name value = Requirement.check ⟨0 < value, .zero name⟩ := by
  unfold Check.positive Requirement.check
  by_cases zero : value = 0
  · subst zero
    rfl
  · simp [zero, UInt64.pos_iff_ne_zero]

theorem messageLength_eq_check (length : UInt64) :
    Check.messageLength length =
      Requirement.check ⟨20 ≤ length, .messageTooShort length 20⟩ := by
  unfold Check.messageLength Requirement.check
  by_cases short : length.toNat < Header.size
  · have missed : ¬ 20 ≤ length := fun fits =>
      absurd (UInt64.le_iff_toNat_le.mp fits) (Nat.not_le.mpr short)
    rw [if_pos short, if_neg (by simpa using missed)]
    rfl
  · have fits : 20 ≤ length := UInt64.le_iff_toNat_le.mpr (Nat.not_lt.mp short)
    rw [if_neg short, if_pos (by simpa using fits)]

theorem warmup_eq_check (warmup : Warmup) :
    Check.warmup warmup =
      Requirement.check
        ⟨warmup.loops ≤ 1 || 0 < warmup.rate, .warmupRate warmup.loops⟩ := by
  unfold Check.warmup Requirement.check
  by_cases few : warmup.loops ≤ 1
  · simp [few, UInt64.not_lt.mpr few]
  · by_cases zero : warmup.rate = 0
    · simp [few, UInt64.not_le.mp few, zero]
    · simp [few, zero, UInt64.pos_iff_ne_zero]

theorem optionalCpu_eq_check (core : Option UInt64) :
    Check.optionalCpu core = (coreRequirement core).check := by
  cases core with
  | none => rfl
  | some core =>
      unfold Check.optionalCpu Check.cpu Requirement.check coreRequirement Check.cpuLimit
      by_cases large : 1024 ≤ core
      · simp [large, UInt64.not_lt.mpr large]
      · simp [large, UInt64.not_le.mp large]

/-- The bucket counts that are too large are refused last of a geometry. -/
theorem buckets_eq_check (geometry : Geometry) :
    (if Histogram.maxBuckets < geometry.bucketCount then
      (throw (.tooManyBuckets geometry.bucketCount Histogram.maxBuckets) :
        Except ConfigFault Unit)
    else pure ()) =
      Requirement.check ⟨geometry.bucketCount ≤ 268435456,
        .tooManyBuckets geometry.bucketCount 268435456⟩ := by
  unfold Requirement.check Histogram.maxBuckets
  by_cases many : 268435456 < geometry.bucketCount
  · simp only [many, UInt64.not_le.mpr many, if_true, decide_false, Bool.false_eq_true, if_false]
    rfl
  · simp only [many, UInt64.not_lt.mp many, if_true, decide_true, if_false]
    rfl

/-- Options are checked by their requirements, one after the other. -/
theorem check_eq_forM (options : PingOptions) :
    options.check = options.requirements.forM Requirement.check := by
  unfold check checkLoad Check.geometry
  simp only [positive_eq_check, messageLength_eq_check, warmup_eq_check, optionalCpu_eq_check,
    buckets_eq_check, bind_assoc, requirements, List.forM_eq_forM, List.forM_cons, List.forM_nil,
    bind_pure_unit]

/-! ## Acceptance -/

/-- A core that is asked for is one of the first 1024. -/
theorem met_coreRequirement_iff (core : Option UInt64) :
    (coreRequirement core).met = true ↔ forall chosen, core = some chosen -> chosen < 1024 := by
  cases core <;> simp [coreRequirement]

/-- Options can be used exactly if they miss no requirement. -/
theorem acceptable_iff (options : PingOptions) :
    options.Acceptable ↔ Requirement.firstMissed options.requirements = none := by
  have buckets : options.geometry.bucketCount ≤ 268435456 ↔
      options.geometry.bucketCount.toNat ≤ Nat.pow 2 28 := UInt64.le_iff_toNat_le
  rw [Requirement.firstMissed_eq_none_iff]
  simp only [requirements, List.forall_mem_cons, met_coreRequirement_iff, decide_eq_true_eq,
    Bool.or_eq_true, buckets]
  constructor
  · rintro ⟨rate, count, length, bucketCount, bucketWidth, buckets, warmup, sender, receiver⟩
    exact ⟨rate, count, length, bucketCount, bucketWidth, buckets, warmup, sender, receiver,
      List.forall_mem_nil _⟩
  · rintro ⟨rate, count, length, bucketCount, bucketWidth, buckets, warmup, sender, receiver, _⟩
    exact ⟨rate, count, length, bucketCount, bucketWidth, buckets, warmup, sender, receiver⟩

/-- The settings that options which can be used ask for. -/
def chosen (options : PingOptions) : PingSettings where
  rate := options.rate
  count := options.count
  length := options.length
  geometry := options.geometry
  warmup := options.warmup
  senderCpu := options.senderCpu
  receiverCpu := options.receiverCpu
  linger := Duration.ofMillis options.lingerMillis
  pause := options.pause
  delay := options.delay
  path := options.path

/-- Options are refused with the fault of the first requirement that they miss. -/
theorem settings_eq (options : PingOptions) :
    options.settings =
      match Requirement.firstMissed options.requirements with
      | none => .ok options.chosen
      | some fault => .error fault := by
  change (options.check >>= fun _ => Except.ok options.chosen) = _
  rw [check_eq_forM, Requirement.forM_check]
  cases Requirement.firstMissed options.requirements <;> rfl

theorem settings_eq_ok_iff {options : PingOptions} {settings : PingSettings} :
    options.settings = .ok settings ↔ options.Acceptable ∧ settings = options.chosen := by
  rw [settings_eq, acceptable_iff]
  cases Requirement.firstMissed options.requirements with
  | none => simp [eq_comm]
  | some fault => simp

theorem settings_eq_error_iff {options : PingOptions} {fault : ConfigFault} :
    options.settings = .error fault ↔
      Requirement.firstMissed options.requirements = some fault := by
  rw [settings_eq]
  cases Requirement.firstMissed options.requirements <;> simp

end PingOptions
end LatencyMeter
