import SafetyCore.Safety.StopDistance

/-!
# The recommended speed limit

In the warning zone a speed is recommended from which braking alone takes seven
tenths of the distance available. What is left of it has to cover the distance
travelled during the latency, which grows with the speed and not with its
square. Close to the buffer it does not: a vehicle that obeys the limit is then
outside the envelope.
-/

namespace SafetyCore

open Arithmetic

/-- Half of the square of the limit is seven tenths of the available distance, at
the given deceleration. -/
theorem mul_self_sqrt_available {decel available : ℝ} (hd : 0 ≤ decel)
    (ha : 0 ≤ available) :
    sqrt (2.0 * decel * available * 0.7) * sqrt (2.0 * decel * available * 0.7) =
      7 / 5 * decel * available := by
  have hnonneg : (0 : ℝ) ≤ 2.0 * decel * available * 0.7 := by positivity
  rw [sqrt_eq_realSqrt, Real.mul_self_sqrt hnonneg]
  norm_num
  ring

/-- At the recommended limit, the latency distance fits into what braking leaves of
the available distance exactly if the available distance is long enough. -/
theorem latency_fits_iff {decel latency available : ℝ} (hd : 0 < decel)
    (hl : 0 ≤ latency) (ha : 0 < available) :
    sqrt (2.0 * decel * available * 0.7) * latency ≤ 3 / 10 * available ↔
      140 * decel * latency ^ 2 ≤ 9 * available := by
  have hsq := mul_self_sqrt_available hd.le ha.le
  have hr : 0 ≤ sqrt (2.0 * decel * available * 0.7) := Real.sqrt_nonneg _
  generalize sqrt (2.0 * decel * available * 0.7) = r at hsq hr
  have hpow : (r * latency) ^ 2 = 7 / 5 * decel * available * latency ^ 2 := by
    rw [← hsq]
    ring
  rw [← sq_le_sq₀ (by positivity) (by positivity), hpow]
  constructor
  · intro h
    have hscaled : available * (140 * decel * latency ^ 2) ≤ available * (9 * available) := by
      linarith
    exact le_of_mul_le_mul_left hscaled ha
  · intro h
    have hscaled := mul_le_mul_of_nonneg_left h ha.le
    linarith

/-- For every distance, speed and buffer, every positive deceleration and every
non-negative latency: a vehicle in the warning zone that takes up the
recommended speed is inside the envelope exactly if the obstacle is at the buffer
itself, or the available distance is long enough for the latency. -/
theorem recommendedSpeed_within_iff (distance speed decel latency buffer : ℝ)
    (hd : 0 < decel) (hl : 0 ≤ latency)
    (hzone : (evaluateStopDistance distance speed decel latency buffer).zone = .warning) :
    (evaluateStopDistance distance
        (evaluateStopDistance distance speed decel latency
          buffer).recommendedSpeedLimitMps
        decel latency buffer).withinEnvelope = true ↔
      distance = buffer ∨ 140 * decel * latency ^ 2 ≤ 9 * (distance - buffer) := by
  obtain ⟨hbuffer, -, hlimit⟩ := evaluateStopDistance_of_warning _ _ _ _ _ hzone
  rw [evaluateStopDistance_withinEnvelope, requiredClearance_of_decel_pos _ _ _ hd,
    WithTop.coe_le_coe, hlimit, max_eq_right hl, max_eq_right hd.le]
  rcases hbuffer.eq_or_lt with rfl | hlt
  · simp
  · have ha : 0 < distance - buffer := sub_pos.2 hlt
    have hfits := latency_fits_iff hd hl ha
    have hsq := mul_self_sqrt_available hd.le ha.le
    have hr : 0 ≤ sqrt (2.0 * decel * (distance - buffer) * 0.7) := Real.sqrt_nonneg _
    rw [if_pos ⟨hd, ha⟩, max_eq_right hr, hsq]
    have hbrake : 7 / 5 * decel * (distance - buffer) / (2 * decel) =
        7 / 10 * (distance - buffer) := by
      field_simp
      ring
    rw [hbrake, or_iff_right hlt.ne', ← hfits]
    constructor <;> intro h <;> linarith

/-- A metre away from a buffer of 0.2 m, a tenth of a second of latency fits. -/
theorem recommendedSpeed_within_iff_far :
    (evaluateStopDistance (1.2 : ℝ)
        (evaluateStopDistance 1.2 1.2 1 0.1 0.2).recommendedSpeedLimitMps
        1 0.1 0.2).withinEnvelope = true ↔
      (1.2 : ℝ) = 0.2 ∨ 140 * (1 : ℝ) * 0.1 ^ 2 ≤ 9 * (1.2 - 0.2) := by
  refine recommendedSpeed_within_iff _ _ _ _ _ one_pos (by norm_num) ?_
  rw [evaluateStopDistance, requiredClearance_of_decel_pos _ _ _ one_pos]
  norm_num [← WithTop.coe_ofNat]

/-- A vehicle at rest, 5.6 cm from the buffer: the recommended speed is 0.28 m/s,
which requires more clearance than there is. -/
theorem recommendedSpeed_not_always_within :
    ¬ ∀ distance speed decel latency buffer : ℝ, 0 < decel → 0 ≤ latency → 0 ≤ buffer →
      (evaluateStopDistance distance speed decel latency buffer).zone = .warning →
      (evaluateStopDistance distance
        (evaluateStopDistance distance speed decel latency
          buffer).recommendedSpeedLimitMps
        decel latency buffer).withinEnvelope = true := by
  intro h
  have hzone : (evaluateStopDistance (0.256 : ℝ) 0 1 0.1 0.2).zone = .warning := by
    rw [evaluateStopDistance, requiredClearance_of_decel_pos _ _ _ one_pos]
    norm_num
  have hwithin := h 0.256 0 1 0.1 0.2 one_pos (by norm_num) (by norm_num) hzone
  have hlimit : (evaluateStopDistance (0.256 : ℝ) 0 1 0.1 0.2).recommendedSpeedLimitMps =
      0.28 := by
    rw [(evaluateStopDistance_of_warning _ _ _ _ _ hzone).2.2, if_pos (by norm_num),
      max_eq_right zero_le_one, sqrt_eq_realSqrt,
      Real.sqrt_eq_iff_mul_self_eq (by norm_num) (by norm_num)]
    norm_num
  rw [evaluateStopDistance_withinEnvelope, requiredClearance_of_decel_pos _ _ _ one_pos,
    WithTop.coe_le_coe, hlimit] at hwithin
  norm_num at hwithin

end SafetyCore
