import Mathlib.Data.Int.Notation
import Mathlib.Tactic.Common

/-!
# The system configuration

Durations are signed counts of nanoseconds.
-/

namespace SafetyCore

def kCurrentSystemConfigVersion : UInt16 := 2

structure TimingConfig where
  controlPeriod : ℤ
  watchdogPeriod : ℤ
  localizationTimeout : ℤ
  deriving DecidableEq, Repr

structure MotionEnvelopeConfig (α : Type*) where
  maxSpeedMps : α
  maxAccelMps2 : α
  maxComfortDecelMps2 : α
  controlLatencyS : α
  safetyBufferM : α
  deriving DecidableEq, Repr

structure SystemConfig (α : Type*) where
  timing : TimingConfig
  envelope : MotionEnvelopeConfig α
  maxTasks : UInt8
  configVersion : UInt16 := kCurrentSystemConfigVersion
  deriving DecidableEq, Repr

/-- `make_config` of the controller's tests. -/
def makeConfig {α : Type*} [OfScientific α] : SystemConfig α where
  timing :=
    { controlPeriod := 100000000
      watchdogPeriod := 150000000
      localizationTimeout := 500000000 }
  envelope :=
    { maxSpeedMps := 1.5
      maxAccelMps2 := 0.75
      maxComfortDecelMps2 := 0.8
      controlLatencyS := 0.1
      safetyBufferM := 0.2 }
  maxTasks := 4

end SafetyCore
