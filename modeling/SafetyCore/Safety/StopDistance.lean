import Mathlib.Algebra.Order.Field.Basic
import Mathlib.Order.WithBot
import SafetyCore.Arithmetic.Comparison
import SafetyCore.Arithmetic.SquareRoot
import SafetyCore.Config.SystemConfig
import SafetyCore.Safety.Envelope

/-!
# Stopping distances

`evaluateStopDistance` compares the distance to an obstacle with the clearance
that a stop requires: the distance travelled during the latency, the braking
distance and a buffer. Without deceleration the required clearance is infinite,
which `⊤` stands for.
-/

namespace SafetyCore

open Arithmetic

/-- The part of the footprint that the evaluation reads. -/
structure RobotFootprint (α : Type*) where
  frontOverhangM : α

structure EnvelopeEvaluation (α : Type*) where
  withinEnvelope : Bool
  zone : SafetyZone
  stoppingDistance : WithTop α
  requiredClearance : WithTop α
  recommendedSpeedLimitMps : α

section Definitions

variable {α : Type*} [Zero α] [Add α] [Sub α] [Mul α] [Div α] [OfScientific α]
  [LT α] [DecidableLT α] [LE α] [DecidableLE α]

/-- The distance covered during the latency, the braking distance and the
buffer. -/
def requiredClearance (currentSpeed maxComfortDecel controlLatency safetyBuffer : α) :
    WithTop α :=
  let speed := stdMax 0 currentSpeed
  let decel := stdMax 0 maxComfortDecel
  let latency := stdMax 0 controlLatency
  if 0 < decel then
    ((speed * latency + (speed * speed) / (2.0 * decel) + safetyBuffer : α) : WithTop α)
  else
    ⊤

variable [SquareRoot α]

def evaluateStopDistance (distanceToObstacle currentSpeed maxComfortDecel controlLatency
    safetyBuffer : α) : EnvelopeEvaluation α :=
  let speed := stdMax 0 currentSpeed
  let decel := stdMax 0 maxComfortDecel
  let required := requiredClearance currentSpeed maxComfortDecel controlLatency safetyBuffer
  let withinEnvelope : Bool := required ≤ (distanceToObstacle : WithTop α)
  let (zone, limit) : SafetyZone × α :=
    if distanceToObstacle < safetyBuffer then
      (.emergency, 0)
    else if !withinEnvelope then
      (.protective, 0)
    else if (distanceToObstacle : WithTop α) < required.map (· * 1.5) then
      -- recommend speed proportional to available distance
      let available := distanceToObstacle - safetyBuffer
      (.warning,
        if 0 < decel ∧ 0 < available then sqrt (2.0 * decel * available * 0.7) else 0)
    else
      (.clear, speed)
  { withinEnvelope := withinEnvelope
    zone := zone
    stoppingDistance := required
    requiredClearance := required
    recommendedSpeedLimitMps := limit }

/-- The overload with the values of a configured envelope. -/
def evaluateStopDistanceIn (distanceToObstacle currentSpeed : α)
    (envelope : MotionEnvelopeConfig α) : EnvelopeEvaluation α :=
  evaluateStopDistance distanceToObstacle currentSpeed envelope.maxComfortDecelMps2
    envelope.controlLatencyS envelope.safetyBufferM

/-- The overload that takes the front overhang off the distance. -/
def evaluateStopDistanceOf (distanceToObstacle currentSpeed : α)
    (envelope : MotionEnvelopeConfig α) (footprint : RobotFootprint α) :
    EnvelopeEvaluation α :=
  let effectiveDistance := distanceToObstacle - footprint.frontOverhangM
  evaluateStopDistance effectiveDistance currentSpeed envelope.maxComfortDecelMps2
    envelope.controlLatencyS envelope.safetyBufferM

end Definitions

/-! ## In an ordered field -/

section Field

variable {K : Type*} [Field K] [LinearOrder K] (distance speed decel latency buffer : K)

theorem requiredClearance_of_decel_pos [IsStrictOrderedRing K] {decel : K}
    (hd : 0 < decel) :
    requiredClearance speed decel latency buffer =
      ((max 0 speed * max 0 latency + max 0 speed * max 0 speed / (2 * decel) + buffer :
        K) : WithTop K) := by
  have htwo : (2.0 : K) = 2 := by norm_num
  simp [requiredClearance, hd, hd.le, htwo]

variable [SquareRoot K]

@[simp] theorem evaluateStopDistance_requiredClearance :
    (evaluateStopDistance distance speed decel latency buffer).requiredClearance =
      requiredClearance speed decel latency buffer := rfl

theorem evaluateStopDistance_withinEnvelope :
    (evaluateStopDistance distance speed decel latency buffer).withinEnvelope = true ↔
      requiredClearance speed decel latency buffer ≤ (distance : WithTop K) :=
  decide_eq_true_iff

/-- In the warning zone the vehicle is inside the envelope, and the limit is the one
recommended there. -/
theorem evaluateStopDistance_of_warning
    (h : (evaluateStopDistance distance speed decel latency buffer).zone = .warning) :
    buffer ≤ distance ∧
      requiredClearance speed decel latency buffer ≤ (distance : WithTop K) ∧
      (evaluateStopDistance distance speed decel latency
          buffer).recommendedSpeedLimitMps =
        if 0 < max 0 decel ∧ 0 < distance - buffer then
          sqrt (2.0 * max 0 decel * (distance - buffer) * 0.7)
        else 0 := by
  unfold evaluateStopDistance at h ⊢
  by_cases hbuffer : distance < buffer
  · simp [hbuffer] at h
  · by_cases hwithin : requiredClearance speed decel latency buffer ≤ (distance : WithTop K)
    · by_cases hwarning : (distance : WithTop K) <
          (requiredClearance speed decel latency buffer).map (· * 1.5)
      · simp [hbuffer, hwithin, hwarning, not_lt.1 hbuffer]
      · simp [hbuffer, hwithin, hwarning] at h
    · simp [hbuffer, hwithin] at h

end Field

end SafetyCore
