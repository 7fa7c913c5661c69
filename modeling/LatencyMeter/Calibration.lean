import LatencyMeter.Error
import LatencyMeter.Log
import LatencyMeter.Program

/-!
# Core calibration

Calibration binds the thread to one core after the other, in ascending order, and
runs a workload on each; the first core that the operating system refuses ends the
sweep. The core with the most work done is then bound once more, the lower core of
two that did the same.

Binding and the workload are requests, so that a refusal may depend on everything
that happened before it. Whoever binds says why a core is refused; of the operating
system it is only known whether it accepts one.
-/

namespace LatencyMeter

/-- The work done on one core. -/
structure CoreProbe where
  core : UInt64
  sends : UInt64
  deriving DecidableEq, Repr

/-- The chosen core and the work done on every core tried, in order. -/
structure Calibration where
  best : UInt64
  probes : List CoreProbe
  deriving DecidableEq, Repr

namespace Calibration

/-- What calibration asks of its surroundings. -/
inductive Request
  /-- Bind the thread to a core, if the operating system allows it. -/
  | bind (core : UInt64)
  /-- Run the workload on the bound core. -/
  | probe (core : UInt64)
  /-- Write a diagnostic. -/
  | note (entry : Log.Entry)

/-- What an attempt to bind the thread to a core comes to: a fault says that the core is
refused. -/
def Binding (_ : UInt64) : Type := Option AffinityFault

/-- The operating system accepts a core, or refuses it without saying why. -/
instance (core : UInt64) : Coe Bool (Binding core) where
  coe accepted := if accepted then none else some (.bindRejected core)

/-- What a request is answered with. -/
abbrev Request.Answer : Request -> Type
  | .bind core => Binding core
  | .probe _ => Except Failure UInt64
  | .note _ => Unit

end Calibration

/-- A program made of the requests of calibration. -/
abbrev Calibrating (α : Type) :=
  Program Calibration.Request Calibration.Request.Answer α

namespace Calibration

/-- Bind the thread to a core. -/
def bindTo (core : UInt64) : Calibrating (Option AffinityFault) :=
  Program.request (Request.bind core)

/-- Run the workload. -/
def probeOn (core : UInt64) : Calibrating (Except Failure UInt64) :=
  Program.request (Request.probe core)

/-- Write a diagnostic. -/
def note (entry : Log.Entry) : Calibrating Unit := Program.request (Request.note entry)

/-- The largest number of cores that a sweep tries. -/
def maxCores : Nat := 64

/-- The better of a probe and the best one before it, which wins a tie. -/
def better (best : Option CoreProbe) (candidate : CoreProbe) : CoreProbe :=
  match best with
  | none => candidate
  | some best => if best.sends < candidate.sends then candidate else best

/-- The probes of a sweep so far, and the best of them. -/
structure Progress where
  probes : List CoreProbe
  best : Option CoreProbe

/-- The diagnostic of a refusal that ends a sweep. -/
def endEntry (core : UInt64) (fault : AffinityFault) : Log.Entry where
  level := .debug
  message := "ending calibration sweep"
  fields := [("core", wordText core), ("error", fault.message)]

/-- The diagnostic of a probe. -/
def probeEntry (probe : CoreProbe) : Log.Entry where
  level := .info
  message := "calibration probe complete"
  fields := [("core", wordText probe.core), ("sends", wordText probe.sends)]

/-- The diagnostic of the choice. -/
def choiceEntry (best : CoreProbe) : Log.Entry where
  level := .info
  message := "calibration selected core"
  fields := [("best_core", wordText best.core), ("sends", wordText best.sends)]

/-- Try a number of cores from one on. -/
def sweepFrom : Nat -> UInt64 -> Progress -> Calibrating (Except Failure Progress)
  | 0, _, progress => return .ok progress
  | remaining + 1, core, progress => do
      match <- bindTo core with
      | some fault =>
          note (endEntry core fault)
          return .ok progress
      | none =>
          match <- probeOn core with
          | .error failure => return .error (failure.within (.probeOnCore core))
          | .ok sends =>
              let probe : CoreProbe := ⟨core, sends⟩
              note (probeEntry probe)
              sweepFrom remaining (core + 1)
                ⟨progress.probes ++ [probe], some (better progress.best probe)⟩

/-- Bind the best core of a sweep for good. -/
def settle (progress : Progress) : Calibrating (Except Failure Calibration) :=
  match progress.best with
  | none => return .error (Failure.ofCause (.affinity .noBindableCore))
  | some best => do
      match <- bindTo best.core with
      | some fault => return .error ((Failure.ofCause (.affinity fault)).within .rebind)
      | none =>
          note (choiceEntry best)
          return .ok ⟨best.core, progress.probes⟩

/-- The number of cores to try under a limit, if there is one. -/
def coreLimit (limit : Option UInt64) : Nat :=
  match limit with
  | none => maxCores
  | some limit => min limit.toNat maxCores

/-- Try the cores of a machine and leave the thread bound to the best one. -/
def run (limit : Option UInt64) : Calibrating (Except Failure Calibration) := do
  match <- sweepFrom (coreLimit limit) 0 ⟨[], none⟩ with
  | .error failure => return .error failure
  | .ok progress => settle progress

end Calibration
end LatencyMeter
