import Mathlib.Algebra.Order.Ring.Rat
import SafetyCore.Motion.StopProfile

/-!
# Emergency stop profiles

`generateEmergencyStopProfile` samples a stop at the full deceleration, which sets in at
once. The buffer and its count are the list of the points written, as for the profiles with
a limited jerk.
-/

namespace SafetyCore

open Arithmetic

namespace Motion

variable {α : Type*} [Zero α] [Add α] [Sub α] [Mul α] [Div α] [OfScientific α]
  [LT α] [DecidableLT α] [LE α] [DecidableLE α]

/-- The loop of the generator with room for `capacity` more points. -/
def emergencyLoop (maxDecel dt : α) : ℕ → α → α → α → StopProfile α
  | 0, _, _, _ => { ok := false, points := [] }
  | capacity + 1, t, v, x =>
      if v > 0 then
        let nextV := stdMax 0 (v - maxDecel * dt)
        let accel := (nextV - v) / dt
        let stepD := ((v + nextV) * 0.5) * dt
        let rest := emergencyLoop maxDecel dt capacity (t + dt) nextV (x + stepD)
        { rest with points := ⟨t, v, accel, 0, x⟩ :: rest.points }
      else
        { ok := true, points := [⟨t, 0, 0, 0, x⟩] }

def generateEmergencyStopProfile [FiniteTest α] (initialSpeed maxDecel dt : α)
    (capacity : ℕ) : StopProfile α :=
  if capacity = 0 || !isFinite initialSpeed || !isFinite maxDecel || !isFinite dt ||
      dt ≤ 0 || maxDecel ≤ 0 then
    { ok := false, points := [] }
  else
    emergencyLoop maxDecel dt capacity 0 (stdMax 0 initialSpeed) 0

/-- A stop from 1 m/s in steps of 0.4 m/s takes three steps. -/
example : (generateEmergencyStopProfile (1 : ℚ) 4 (1 / 10) 8).points.map
    TrajectoryPoint.speedMps = [1, 3 / 5, 1 / 5, 0] := by
  decide +kernel

end Motion

end SafetyCore
