import Mathlib.Tactic.NormNum
import SafetyCore.Motion.EmergencyStop.ClosedForm
import SafetyCore.Motion.StopProfile.Rounds
import SafetyCore.Motion.TrajectoryValidator

/-!
# Generated trajectories are valid

The two generators and the validator agree. What a generator writes advances from point to
point, and each point is within the initial speed, the deceleration and the jerk that the
generator was given; so every validator whose limits are no stricter accepts it. Both are
read off one round of the loop, for the states that its invariant leaves.
-/

namespace SafetyCore

open Arithmetic Transition

namespace Motion

open TrajectoryValidator

variable {K : Type*} [Field K] [LinearOrder K]

/-- The points start at the time `t` and the distance `x`, advance from point to point and
stay within the bounds. -/
structure Regular (speed accel jerk t x : K) (ps : List (TrajectoryPoint K)) : Prop where
  head : ∀ p ∈ ps.head?, p.tS = t ∧ p.distanceM = x
  within : ∀ p ∈ ps, PointWithin speed accel jerk p
  chain : ps.IsChain Advances

variable {speed accel jerk : K}

/-- A loop whose points are within the bounds in every state and advance with every round. -/
theorem regular_trace {σ : Type*} {L : BufferedLoop σ (TrajectoryPoint K)} {I : σ → Prop}
    {t x : σ → K}
    (hI : ∀ s, I s → L.goesOn s = true → I (L.next s))
    (hemit : ∀ s, (L.emit s).tS = t s ∧ (L.emit s).distanceM = x s)
    (hfinal : ∀ s, (L.final s).tS = t s ∧ (L.final s).distanceM = x s)
    (hwithin : ∀ s, I s → PointWithin speed accel jerk (L.emit s))
    (hrest : ∀ s, I s → PointWithin speed accel jerk (L.final s))
    (hnext : ∀ s, I s → t s < t (L.next s) ∧ x s ≤ x (L.next s))
    {n : ℕ} {s : σ} (h : L.EndsAfter n s) (hs : I s) :
    Regular speed accel jerk (t s) (x s) (L.trace n s) where
  head := by
    cases n with
    | zero =>
        rintro p ⟨⟩
        exact hfinal s
    | succ n =>
        rintro p ⟨⟩
        exact hemit s
  within := h.forall_mem_trace hI (fun s h _ => hwithin s h) (fun s h _ => hrest s h) hs
  chain := by
    refine h.isChain_trace hI (fun s h _ _ => ?_) (fun s h _ _ => ?_) hs
    · rw [Advances, (hemit s).1, (hemit s).2, (hemit _).1, (hemit _).2]
      exact hnext s h
    · rw [Advances, (hemit s).1, (hemit s).2, (hfinal _).1, (hfinal _).2]
      exact hnext s h

variable [IsStrictOrderedRing K] {maxDecel maxJerk dt : K}

theorem pointWithin_rest (hspeed : 0 ≤ speed) (haccel : 0 ≤ accel) (hjerk : 0 ≤ jerk)
    (t x : K) : PointWithin speed accel jerk ⟨t, 0, 0, 0, x⟩ :=
  ⟨by simpa using hspeed, by simpa using haccel, by simpa using hjerk⟩

/-! ## The emergency stop -/

theorem emergencyRounds_regular (hd : 0 ≤ maxDecel) (hdt : 0 < dt) {n : ℕ}
    {s : EmergencyState K} (h : (emergencyRounds maxDecel dt).EndsAfter n s) (hv : 0 ≤ s.v) :
    Regular s.v maxDecel 0 s.t s.x ((emergencyRounds maxDecel dt).trace n s) := by
  have hstep : 0 ≤ maxDecel * dt := mul_nonneg hd hdt.le
  have hnext (u : EmergencyState K) (hu : 0 ≤ u.v ∧ u.v ≤ s.v)
      (_ : (emergencyRounds maxDecel dt).goesOn u = true) :
      0 ≤ ((emergencyRounds maxDecel dt).next u).v ∧
        ((emergencyRounds maxDecel dt).next u).v ≤ s.v := by
    rw [emergencyRounds_next_v]
    exact ⟨le_max_left _ _, max_le hv (by linarith [hu.2])⟩
  refine regular_trace (I := fun u => 0 ≤ u.v ∧ u.v ≤ s.v) (t := EmergencyState.t)
    (x := EmergencyState.x) hnext (fun _ => ⟨rfl, rfl⟩) (fun _ => ⟨rfl, rfl⟩)
    (fun u hu => ?_) (fun u _ => pointWithin_rest hv hd le_rfl u.t u.x)
    (fun u hu => ⟨?_, ?_⟩) h ⟨hv, le_rfl⟩
  · obtain ⟨hlo, hhi⟩ := emergencyRounds_accel_mem hd hdt hu.1
    exact ⟨(abs_of_nonneg hu.1).trans_le hu.2, abs_le.2 ⟨hlo, hhi.trans hd⟩, abs_zero.le⟩
  · exact lt_add_of_pos_right u.t hdt
  · have hspeed := hu.1
    rw [emergencyRounds_next_x]
    exact le_add_of_nonneg_right (by positivity)

/-! ## The stop with a limited jerk -/

theorem jerkRounds_regular (hd : 0 ≤ maxDecel) (hj : 0 ≤ maxJerk) (hdt : 0 < dt) {n : ℕ}
    {s : JerkState K} (h : (jerkRounds maxDecel maxJerk dt).EndsAfter n s)
    (hs : Decelerating maxDecel s) :
    Regular s.v maxDecel maxJerk s.t s.x ((jerkRounds maxDecel maxJerk dt).trace n s) := by
  have hnext (u : JerkState K) (hu : Decelerating maxDecel u ∧ u.v ≤ s.v)
      (_ : (jerkRounds maxDecel maxJerk dt).goesOn u = true) :
      Decelerating maxDecel ((jerkRounds maxDecel maxJerk dt).next u) ∧
        ((jerkRounds maxDecel maxJerk dt).next u).v ≤ s.v :=
    ⟨hu.1.next hd hj hdt.le, (hu.1.next_v_le hd hj hdt.le).trans hu.2⟩
  refine regular_trace (I := fun u => Decelerating maxDecel u ∧ u.v ≤ s.v) (t := JerkState.t)
    (x := JerkState.x) hnext (fun _ => ⟨rfl, rfl⟩) (fun _ => ⟨rfl, rfl⟩) (fun u hu => ?_)
    (fun u _ => pointWithin_rest hs.speed_nonneg hd hj u.t u.x) (fun u hu => ⟨?_, ?_⟩) h
    ⟨hs, le_rfl⟩
  · obtain ⟨⟨hlo, hhi⟩, hjerk⟩ :=
      jerkPhase_bounds u.v hd hj hdt.le hu.1.le_accel hu.1.accel_le
    exact ⟨(abs_of_nonneg hu.1.speed_nonneg).trans_le hu.2, abs_le.2 ⟨hlo, hhi.trans hd⟩,
      hjerk⟩
  · exact lt_add_of_pos_right u.t hdt
  · exact (hu.1.follows hd hj hdt.le).1.distance_le

/-! ## The agreement -/

variable {initialSpeed : K} {capacity : ℕ}

theorem generateEmergencyStopProfile_regular
    (hok : (generateEmergencyStopProfile initialSpeed maxDecel dt capacity).ok = true) :
    (generateEmergencyStopProfile initialSpeed maxDecel dt capacity).points ≠ [] ∧
      Regular (max 0 initialSpeed) maxDecel 0 0 0
        (generateEmergencyStopProfile initialSpeed maxDecel dt capacity).points := by
  obtain ⟨hd, hdt, n, -, hends, hpoints⟩ := generateEmergencyStopProfile_of_ok hok
  rw [hpoints]
  exact ⟨BufferedLoop.trace_ne_nil n _,
    emergencyRounds_regular hd.le hdt hends (le_max_left _ _)⟩

theorem generateJerkLimitedStopProfile_regular
    (hok : (generateJerkLimitedStopProfile initialSpeed maxDecel maxJerk dt
      capacity).ok = true) :
    (generateJerkLimitedStopProfile initialSpeed maxDecel maxJerk dt capacity).points ≠ [] ∧
      Regular (max 0 initialSpeed) maxDecel maxJerk 0 0
        (generateJerkLimitedStopProfile initialSpeed maxDecel maxJerk dt capacity).points := by
  obtain ⟨hin, -⟩ := generateJerkLimitedStopProfile_of_ok hok
  have hd := (not_le.1 hin.not_decel_le).le
  have hj := (not_le.1 hin.not_jerk_le).le
  obtain ⟨n, -, hends, hpoints⟩ := generateJerkLimitedStopProfile_trace hok
  have hregular := jerkRounds_regular hd hj (not_le.1 hin.not_dt_le) hends
    (decelerating_start hd initialSpeed)
  rw [hpoints, ← stdMax_eq_max]
  exact ⟨BufferedLoop.trace_ne_nil n _, hregular⟩

variable [SquareRoot K] {v : TrajectoryValidator K}

theorem validate_emergencyStopProfile
    (hok : (generateEmergencyStopProfile initialSpeed maxDecel dt capacity).ok = true)
    (hv : v.Permits (max 0 initialSpeed) maxDecel 0) :
    (v.validate
      (some (generateEmergencyStopProfile initialSpeed maxDecel dt capacity).points)).ok =
        true := by
  obtain ⟨hne, hregular⟩ := generateEmergencyStopProfile_regular hok
  exact validate_ok hv hne hregular.within hregular.chain

theorem validate_jerkLimitedStopProfile
    (hok : (generateJerkLimitedStopProfile initialSpeed maxDecel maxJerk dt
      capacity).ok = true)
    (hv : v.Permits (max 0 initialSpeed) maxDecel maxJerk) :
    (v.validate (some (generateJerkLimitedStopProfile initialSpeed maxDecel maxJerk dt
      capacity).points)).ok = true := by
  obtain ⟨hne, hregular⟩ := generateJerkLimitedStopProfile_regular hok
  exact validate_ok hv hne hregular.within hregular.chain

/-- In exact arithmetic: whenever a generator returns true, every validator without an
obstacle whose limits are at least the initial speed, the deceleration and, for the
jerk-limited profile, the jerk, accepts the points it wrote. -/
theorem validate_generated (v : TrajectoryValidator K)
    (initialSpeed maxDecel maxJerk dt : K) (capacity : ℕ)
    (hspeed : ∀ cfg ∈ v.config, max 0 initialSpeed ≤ cfg.envelope.maxSpeedMps)
    (haccel : ∀ cfg ∈ v.config, maxDecel ≤ cfg.envelope.maxAccelMps2)
    (hobstacle : v.obstacleDistanceM < 0) :
    ((generateEmergencyStopProfile initialSpeed maxDecel dt capacity).ok = true →
        0 ≤ v.maxJerkMps3 →
        (v.validate (some (generateEmergencyStopProfile initialSpeed maxDecel dt
          capacity).points)).ok = true) ∧
      ((generateJerkLimitedStopProfile initialSpeed maxDecel maxJerk dt capacity).ok =
          true →
        maxJerk ≤ v.maxJerkMps3 →
        (v.validate (some (generateJerkLimitedStopProfile initialSpeed maxDecel maxJerk dt
          capacity).points)).ok = true) :=
  ⟨fun hok hjerk => validate_emergencyStopProfile hok ⟨hspeed, haccel, hjerk, hobstacle⟩,
    fun hok hjerk => validate_jerkLimitedStopProfile hok ⟨hspeed, haccel, hjerk, hobstacle⟩⟩

/-- Stops from 1 m/s with 0.5 m/s² in steps of a second. -/
theorem validate_generated_stops :
    (({ config := some makeConfig } : TrajectoryValidator ℝ).validate
        (some (generateEmergencyStopProfile 1 0.5 1 8).points)).ok = true ∧
      (({ config := some makeConfig } : TrajectoryValidator ℝ).validate
        (some (generateJerkLimitedStopProfile 1 0.5 2 1 8).points)).ok = true := by
  have hspeed : ∀ cfg ∈ some (makeConfig : SystemConfig ℝ),
      max 0 1 ≤ cfg.envelope.maxSpeedMps := by
    rintro cfg ⟨⟩
    norm_num [makeConfig]
  have haccel : ∀ cfg ∈ some (makeConfig : SystemConfig ℝ),
      (0.5 : ℝ) ≤ cfg.envelope.maxAccelMps2 := by
    rintro cfg ⟨⟩
    norm_num [makeConfig]
  have hemergency : (generateEmergencyStopProfile (1 : ℝ) 0.5 1 8).ok = true := by
    norm_num [generateEmergencyStopProfile, emergencyLoop, isFinite]
  have hjerk : (generateJerkLimitedStopProfile (1 : ℝ) 0.5 2 1 8).ok = true := by
    norm_num [generateJerkLimitedStopProfile, jerkLimitedLoop, jerkPhase, isFinite, stdAbs]
  have hboth := validate_generated ({ config := some makeConfig } : TrajectoryValidator ℝ)
    1 0.5 2 1 8 hspeed haccel (by norm_num)
  exact ⟨hboth.1 hemergency (by norm_num), hboth.2 hjerk (by norm_num)⟩

end Motion

end SafetyCore
