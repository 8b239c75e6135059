import Mathlib.Data.Rat.Sqrt
import SafetyCore.Config.Validation
import SafetyCore.Motion.StopProfile.Schedule
import SafetyCore.Safety.StopDistance

/-!
# The stop that is executed

The required clearance counts the distance travelled during the latency, the braking
distance at the full deceleration and the buffer. The stop profile does not have the
full deceleration in every step, so its distance is covered exactly if the latency
distance and the buffer make up for what its schedule adds to the braking distance.
-/

namespace SafetyCore

open Arithmetic Motion

section Field

variable {K : Type*} [Field K] [LinearOrder K] [IsStrictOrderedRing K]

/-- A generated profile ends within the braking distance and its excess. -/
theorem generateJerkLimitedStopProfile_endsWithin {v maxDecel maxJerk dt : K}
    {capacity : ℕ} (hv : 0 ≤ v)
    (hok : (generateJerkLimitedStopProfile v maxDecel maxJerk dt capacity).ok = true) :
    (generateJerkLimitedStopProfile v maxDecel maxJerk dt capacity).EndsWithin
      (v ^ 2 / (2 * maxDecel) + stopExcess maxDecel maxJerk dt v) := by
  obtain ⟨hin, hloop⟩ := generateJerkLimitedStopProfile_of_ok hok
  have hd := not_le.1 hin.not_decel_le
  have hj := not_le.1 hin.not_jerk_le
  have hdt := not_le.1 hin.not_dt_le
  rw [hloop, stdMax_eq_max, max_eq_right hv] at hok ⊢
  have hend := (jerkLimitedLoop_endsWithin hd hj hdt hv (by linarith) le_rfl hok).1
  have hbound : 0 + stopBound maxDecel maxJerk dt v 0 =
      v ^ 2 / (2 * maxDecel) + stopExcess maxDecel maxJerk dt v := by
    rw [stopBound_eq, stopExcess_eq, rampExcess_eq]
    field_simp
    ring
  rwa [hbound] at hend

/-- So does its schedule. -/
theorem stopTravel_le [FloorSemiring K] {v maxDecel maxJerk dt : K} {capacity : ℕ}
    (hv : 0 ≤ v)
    (hok : (generateJerkLimitedStopProfile v maxDecel maxJerk dt capacity).ok = true) :
    stopTravel maxDecel maxJerk dt v capacity ≤
      v ^ 2 / (2 * maxDecel) + stopExcess maxDecel maxJerk dt v := by
  obtain ⟨p, hlast, hp⟩ := generateJerkLimitedStopProfile_distance hv hok
  obtain ⟨q, hlast', hq⟩ := generateJerkLimitedStopProfile_endsWithin hv hok
  obtain rfl := Option.some.inj (hlast.symm.trans hlast')
  exact hp ▸ hq

variable [FloorSemiring K] [SquareRoot K]

/-- For every accepted configuration and every profile: the stop ends within the required
clearance if and only if the distance of its schedule exceeds the braking distance by no more
than the latency distance and the buffer, and it does so whenever these two cover the bound
of the excess. -/
theorem executedStop_within_requiredClearance (cfg : SystemConfig K)
    (distance v jerk dt : K) (capacity : ℕ) (haccept : (validate cfg .strict).ok = true)
    (hv : 0 ≤ v)
    (hok : (generateJerkLimitedStopProfile v cfg.envelope.maxComfortDecelMps2 jerk dt
      capacity).ok = true) :
    ∃ p, (generateJerkLimitedStopProfile v cfg.envelope.maxComfortDecelMps2 jerk dt
        capacity).points.getLast? = some p ∧
      ((p.distanceM : WithTop K) ≤
          (evaluateStopDistanceIn distance v cfg.envelope).requiredClearance ↔
        stopTravel cfg.envelope.maxComfortDecelMps2 jerk dt v capacity ≤
          v * cfg.envelope.controlLatencyS + v ^ 2 / (2 * cfg.envelope.maxComfortDecelMps2) +
            cfg.envelope.safetyBufferM) ∧
      (stopExcess cfg.envelope.maxComfortDecelMps2 jerk dt v ≤
          v * cfg.envelope.controlLatencyS + cfg.envelope.safetyBufferM →
        (p.distanceM : WithTop K) ≤
          (evaluateStopDistanceIn distance v cfg.envelope).requiredClearance) := by
  have haccepted := (validate_ok_iff cfg .strict).1 haccept
  have hd : 0 < cfg.envelope.maxComfortDecelMps2 :=
    not_le.1 fun h => haccepted.positive (Or.inr (Or.inr h))
  have hlatency : 0 ≤ cfg.envelope.controlLatencyS := not_lt.1 haccepted.latency_nonneg
  obtain ⟨p, hlast, hp⟩ := generateJerkLimitedStopProfile_distance hv hok
  have hbound := stopTravel_le hv hok
  refine ⟨p, hlast, ?_⟩
  rw [evaluateStopDistanceIn, evaluateStopDistance_requiredClearance,
    requiredClearance_of_decel_pos _ _ _ hd, WithTop.coe_le_coe, max_eq_right hv,
    max_eq_right hlatency, ← sq, hp]
  exact ⟨Iff.rfl, fun hexcess => by linarith⟩

end Field

section Example

local instance : SquareRoot ℚ := ⟨Rat.sqrt⟩

/-- The configuration of the tests with the envelope that the node loads by default. -/
def defaultEnvelopeConfig : SystemConfig ℚ :=
  { (makeConfig : SystemConfig ℚ) with
    envelope :=
      { maxSpeedMps := 1.5
        maxAccelMps2 := 0.75
        maxComfortDecelMps2 := 1
        controlLatencyS := 0.04
        safetyBufferM := 0.3 } }

/-- From full speed, in steps of 0.05 s with a jerk of 2 m/s³, the deceleration is ramped up
for ten rounds and held for fifteen before it is ramped down. The stop takes 1.45875 m, and
1.485 m are required. -/
theorem executedStop_within_requiredClearance_defaults :
    rampRounds (1 : ℚ) 2 0.05 = 10 ∧ heldRounds (1 : ℚ) 2 0.05 1.5 = 25 ∧
      ∃ p, (generateJerkLimitedStopProfile (1.5 : ℚ) 1 2 0.05 64).points.getLast? = some p ∧
        p.distanceM = 1.45875 ∧
        (p.distanceM : WithTop ℚ) ≤
          (evaluateStopDistanceIn 1 1.5 defaultEnvelopeConfig.envelope).requiredClearance := by
  obtain ⟨p, hlast, hiff, -⟩ := executedStop_within_requiredClearance defaultEnvelopeConfig 1
    1.5 2 0.05 64 (by decide +kernel) (by norm_num) (by decide +kernel)
  refine ⟨by decide +kernel, by decide +kernel, p, hlast, ?_, hiff.2 (by decide +kernel)⟩
  have hpoint : ∀ q ∈ (generateJerkLimitedStopProfile (1.5 : ℚ) 1 2 0.05
      64).points.getLast?, q.distanceM = 1.45875 := by
    decide +kernel
  exact hpoint p hlast

end Example

/-- From 1 m/s with the configuration of the tests and a jerk of 0.5 m/s³ the stop takes
1.125 m, and 0.925 m are required. -/
theorem executedStop_not_always_within_requiredClearance :
    ¬ ∀ (cfg : SystemConfig ℝ) (distance v jerk dt : ℝ) (capacity : ℕ),
      (validate cfg .strict).ok = true → 0 ≤ v → v ≤ cfg.envelope.maxSpeedMps →
      0 < jerk → 0 < dt →
      (generateJerkLimitedStopProfile v cfg.envelope.maxComfortDecelMps2 jerk dt
        capacity).ok = true →
      ∃ p, (generateJerkLimitedStopProfile v cfg.envelope.maxComfortDecelMps2 jerk dt
          capacity).points.getLast? = some p ∧
        (p.distanceM : WithTop ℝ) ≤
          (evaluateStopDistanceIn distance v cfg.envelope).requiredClearance := by
  intro h
  have hd : (0 : ℝ) < makeConfig.envelope.maxComfortDecelMps2 := by norm_num [makeConfig]
  obtain ⟨p, hlast, hp⟩ := h makeConfig 1 1 0.5 0.5 8
    ((validate_ok_iff _ _).2 (makeConfig_accepted .strict)) (by norm_num)
    (by norm_num [makeConfig]) (by norm_num) (by norm_num)
    (by norm_num [generateJerkLimitedStopProfile, jerkLimitedLoop, jerkPhase, makeConfig,
      isFinite])
  norm_num [generateJerkLimitedStopProfile, jerkLimitedLoop, jerkPhase, makeConfig,
    isFinite] at hlast
  rw [evaluateStopDistanceIn, evaluateStopDistance_requiredClearance,
    requiredClearance_of_decel_pos _ _ _ hd, WithTop.coe_le_coe, ← hlast] at hp
  norm_num [makeConfig] at hp

end SafetyCore
