import Mathlib.Tactic.Linarith
import Mathlib.Tactic.NormNum
import SafetyCore.Arithmetic.Comparison

/-!
# The speed limit controller

`SpeedLimitController` drops the limit to half of the maximum when a sensor
degrades and ramps it back to the maximum once all sensors have recovered.
-/

namespace SafetyCore

structure SpeedLimitController (α : Type*) where
  maxSpeedMps : α
  currentLimitMps : α
  targetLimitMps : α
  rampNs : UInt64
  rampStartNs : Option UInt64
  deriving DecidableEq, Repr

namespace SpeedLimitController

def create {α : Type*} (maxSpeedMps : α) (rampNs : UInt64) :
    SpeedLimitController α where
  maxSpeedMps := maxSpeedMps
  currentLimitMps := maxSpeedMps
  targetLimitMps := maxSpeedMps
  rampNs := rampNs
  rampStartNs := none

section Operations

variable {α : Type*} [Zero α] [Add α] [Sub α] [Mul α] [Div α] [OfScientific α]
  [NatCast α] (c : SpeedLimitController α)

/-- The limit returned by `update` is the `currentLimitMps` of the controller it
leaves. -/
def update (nowNs : UInt64) (safeStopActive : Bool) : SpeedLimitController α :=
  if safeStopActive then
    { c with currentLimitMps := 0, targetLimitMps := 0, rampStartNs := none }
  else
    match c.rampStartNs with
    | some rampStart =>
        let elapsedNs := nowNs - rampStart
        if elapsedNs ≥ c.rampNs then
          { c with currentLimitMps := c.targetLimitMps, rampStartNs := none }
        else
          let degradedLimit := c.maxSpeedMps * 0.5
          let rampRange := c.targetLimitMps - degradedLimit
          let fraction : α := (elapsedNs.toNat : α) / (c.rampNs.toNat : α)
          { c with currentLimitMps := degradedLimit + rampRange * fraction }
    | none => { c with currentLimitMps := c.targetLimitMps }

/-- A sensor degraded: drop to half of the maximum at once. -/
def onDegraded : SpeedLimitController α :=
  { c with
    targetLimitMps := c.maxSpeedMps * 0.5
    rampStartNs := none
    currentLimitMps := c.maxSpeedMps * 0.5 }

/-- All sensors have recovered: start the ramp back to the maximum. -/
def onRecovered (nowNs : UInt64) : SpeedLimitController α :=
  { c with targetLimitMps := c.maxSpeedMps, rampStartNs := some nowNs }

@[simp] theorem update_maxSpeedMps (nowNs : UInt64) (safeStopActive : Bool) :
    (c.update nowNs safeStopActive).maxSpeedMps = c.maxSpeedMps := by
  unfold update
  split
  · rfl
  · split
    · dsimp only
      split <;> rfl
    · rfl

end Operations

section Half

variable {K : Type*} [Field K] [LinearOrder K] [IsStrictOrderedRing K]
  {c : SpeedLimitController K}

/-- No ramp is under way, and the limit aimed at is at most half of the
maximum. -/
structure HoldsHalf (c : SpeedLimitController K) : Prop where
  noRamp : c.rampStartNs = none
  target_le : c.targetLimitMps ≤ c.maxSpeedMps / 2

theorem holdsHalf_onDegraded (c : SpeedLimitController K) : c.onDegraded.HoldsHalf where
  noRamp := rfl
  target_le := by
    change c.maxSpeedMps * 0.5 ≤ c.maxSpeedMps / 2
    norm_num [div_eq_mul_inv]

/-- Updates keep the limit, with or without the safe stop. -/
theorem HoldsHalf.update (h : c.HoldsHalf) (hmax : 0 ≤ c.maxSpeedMps) (nowNs : UInt64)
    (safeStopActive : Bool) :
    (c.update nowNs safeStopActive).HoldsHalf ∧
      (c.update nowNs safeStopActive).currentLimitMps ≤ c.maxSpeedMps / 2 := by
  have hhalf : 0 ≤ c.maxSpeedMps / 2 := by linarith
  unfold SpeedLimitController.update
  split
  · exact ⟨⟨rfl, hhalf⟩, hhalf⟩
  · rw [h.noRamp]
    exact ⟨⟨rfl, h.target_le⟩, h.target_le⟩

end Half

end SpeedLimitController

end SafetyCore
