import SafetyCore.Motion.EmergencyStop.ClosedForm
import SafetyCore.Motion.StopProfile.Rounds

/-!
# The two stops compared

The emergency stop takes the full step off the speed in every round, and no round of the
jerk-limited stop takes off more. So its speed stays at least as high, round by round, also
beyond the end of the shorter stop, and it travels at least as far.
-/

namespace SafetyCore

open Arithmetic Transition

namespace Motion

variable {K : Type*} [Field K] [LinearOrder K] [IsStrictOrderedRing K]
  {maxDecel maxJerk dt : K} {s : EmergencyState K} {u : JerkState K}

/-- The jerk-limited stop is at least as fast and as far. -/
structure Dominated (maxDecel : K) (s : EmergencyState K) (u : JerkState K) : Prop where
  speed_nonneg : 0 ≤ s.v
  speed_le : s.v ≤ u.v
  distance_le : s.x ≤ u.x
  decelerating : Decelerating maxDecel u

theorem Dominated.next (h : Dominated maxDecel s u) (hd : 0 < maxDecel) (hj : 0 < maxJerk)
    (hdt : 0 < dt) :
    Dominated maxDecel ((emergencyRounds maxDecel dt).next s)
      ((jerkRounds maxDecel maxJerk dt).next u) := by
  have hu := h.decelerating.next hd.le hj.le hdt.le
  have hspeed : ((emergencyRounds maxDecel dt).next s).v ≤
      ((jerkRounds maxDecel maxJerk dt).next u).v := by
    have hslow := mul_le_mul_of_nonneg_right hu.le_accel hdt.le
    have hle := h.speed_le
    rw [emergencyRounds_next_v, jerkRounds_next_v]
    exact max_le_max_left 0 (by linarith)
  refine ⟨?_, hspeed, ?_, hu⟩
  · rw [emergencyRounds_next_v]
    exact le_max_left _ _
  · have hle := h.speed_le
    have hx := h.distance_le
    rw [emergencyRounds_next_x, ← emergencyRounds_next_v, jerkRounds_next_x]
    gcongr

theorem dominated_start (hd : 0 ≤ maxDecel) (initialSpeed : K) :
    Dominated maxDecel ⟨0, max 0 initialSpeed, 0⟩ (jerkStart initialSpeed) where
  speed_nonneg := le_max_left _ _
  speed_le := (stdMax_eq_max 0 initialSpeed).ge
  distance_le := le_rfl
  decelerating := decelerating_start hd initialSpeed

/-- Rounds beyond the end of the loop do not shorten the way. -/
theorem emergencyRounds_iterate_x_mono (hdt : 0 < dt) (hstep : 0 ≤ maxDecel * dt)
    (hv : 0 ≤ s.v) {n m : ℕ} (h : n ≤ m) :
    ((emergencyRounds maxDecel dt).next^[n] s).x ≤
      ((emergencyRounds maxDecel dt).next^[m] s).x := by
  induction m, h using Nat.le_induction with
  | base => exact le_rfl
  | succ m _ ih =>
      have hspeed : 0 ≤ ((emergencyRounds maxDecel dt).next^[m] s).v := by
        rw [emergencyRounds_iterate_v hstep hv]
        exact le_max_left _ _
      rw [Function.iterate_succ_apply', emergencyRounds_next_x]
      exact ih.trans (le_add_of_nonneg_right (by positivity))

/-- For every initial speed, deceleration, jerk and step, and whatever the buffers are: if
both stops fit, the jerk-limited one has at least as many points, is at least as fast at
every index the two share, and ends at least as far away. -/
theorem emergencyStop_dominated {initialSpeed maxDecel maxJerk dt : K} {capacity capacity' : ℕ}
    (hok : (generateEmergencyStopProfile initialSpeed maxDecel dt capacity).ok = true)
    (hok' : (generateJerkLimitedStopProfile initialSpeed maxDecel maxJerk dt
      capacity').ok = true) :
    (generateEmergencyStopProfile initialSpeed maxDecel dt capacity).points.length ≤
        (generateJerkLimitedStopProfile initialSpeed maxDecel maxJerk dt
          capacity').points.length ∧
      (∀ (k : ℕ) (p q : TrajectoryPoint K),
        (generateEmergencyStopProfile initialSpeed maxDecel dt capacity).points[k]? =
          some p →
        (generateJerkLimitedStopProfile initialSpeed maxDecel maxJerk dt
          capacity').points[k]? = some q →
        p.speedMps ≤ q.speedMps) ∧
      ∃ p q,
        (generateEmergencyStopProfile initialSpeed maxDecel dt capacity).points.getLast? =
          some p ∧
        (generateJerkLimitedStopProfile initialSpeed maxDecel maxJerk dt
          capacity').points.getLast? = some q ∧
        p.distanceM ≤ q.distanceM := by
  obtain ⟨hd, hdt, n, -, hends, hpoints⟩ := generateEmergencyStopProfile_of_ok hok
  obtain ⟨m, -, hends', hpoints'⟩ := generateJerkLimitedStopProfile_trace hok'
  have hj : 0 < maxJerk := not_le.1 (generateJerkLimitedStopProfile_of_ok hok').1.not_jerk_le
  have hnext (s : EmergencyState K) (u : JerkState K) (h : Dominated maxDecel s u) :=
    h.next hd hj hdt
  have hstart := dominated_start hd.le initialSpeed
  have hdominated := BufferedLoop.iterate_related hnext hstart
  have hrounds : n ≤ m := by
    refine BufferedLoop.EndsAfter.le_of_related hnext (fun s u h hgo => ?_) hstart hends hends'
    rw [emergencyRounds_goesOn] at hgo
    exact jerkRounds_goesOn.2 (hgo.trans_le h.speed_le)
  rw [hpoints, hpoints', BufferedLoop.length_trace, BufferedLoop.length_trace]
  refine ⟨Nat.succ_le_succ hrounds, fun k p q hp hq => ?_, _, _,
    BufferedLoop.getLast?_trace n _, BufferedLoop.getLast?_trace m _, ?_⟩
  · have hk : k ≤ n := by
      have := (List.getElem?_eq_some_iff.1 hp).1
      rw [BufferedLoop.length_trace] at this
      omega
    have hqspeed : 0 ≤ q.speedMps := by
      rcases (hk.trans hrounds).eq_or_lt with rfl | hlt
      · rw [BufferedLoop.getElem?_trace_self] at hq
        cases hq
        exact le_rfl
      · rw [BufferedLoop.getElem?_trace_of_lt _ hlt] at hq
        cases hq
        exact (hdominated k).decelerating.speed_nonneg
    rcases hk.eq_or_lt with rfl | hlt
    · -- The emergency stop has come to rest.
      rw [BufferedLoop.getElem?_trace_self] at hp
      cases hp
      exact hqspeed
    · rw [BufferedLoop.getElem?_trace_of_lt _ hlt] at hp
      rw [BufferedLoop.getElem?_trace_of_lt _ (hlt.trans_le hrounds)] at hq
      cases hp
      cases hq
      exact (hdominated k).speed_le
  · exact (emergencyRounds_iterate_x_mono hdt (mul_pos hd hdt).le (le_max_left _ _)
      hrounds).trans (hdominated m).distance_le

/-- The stop of the tests, from 1 m/s. -/
def emergencyTestStop : StopProfile ℚ := generateEmergencyStopProfile 1 2 (1 / 4) 8

/-- The jerk-limited stop with the same deceleration. -/
def jerkLimitedTestStop : StopProfile ℚ := generateJerkLimitedStopProfile 1 2 4 (1 / 4) 8

theorem emergencyStop_dominated_rat :
    emergencyTestStop.points.length ≤ jerkLimitedTestStop.points.length ∧
      (∀ (k : ℕ) (p q : TrajectoryPoint ℚ), emergencyTestStop.points[k]? = some p →
        jerkLimitedTestStop.points[k]? = some q → p.speedMps ≤ q.speedMps) ∧
      ∃ p q, emergencyTestStop.points.getLast? = some p ∧
        jerkLimitedTestStop.points.getLast? = some q ∧ p.distanceM ≤ q.distanceM := by
  have hok : emergencyTestStop.ok = true := by decide +kernel
  have hok' : jerkLimitedTestStop.ok = true := by decide +kernel
  exact emergencyStop_dominated hok hok'

end Motion

end SafetyCore
