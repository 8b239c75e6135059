import SafetyCore.Arithmetic.Double.Monotone
import SafetyCore.Motion.StopProfile

/-!
# Stop profiles in doubles

In doubles a step of the acceleration or of the speed may overflow. It overflows beyond
the limit that cuts it, so the acceleration stays between the maximal deceleration and
zero, and no speed of a profile exceeds the initial one.
-/

namespace SafetyCore

namespace Motion

open Arithmetic Double

variable {K : Type*} [Field K] [LinearOrder K] [IsStrictOrderedRing K] {F : Format K}

/-- The parameters that the generator accepts. -/
structure DecelLimits (maxDecel maxJerk dt : Double F) : Prop where
  decel : isFinite maxDecel = true ∧ 0 ≤ maxDecel
  jerk : isFinite maxJerk = true ∧ 0 ≤ maxJerk
  dt : isFinite dt = true ∧ 0 ≤ dt

variable {maxDecel maxJerk dt a v : Double F}

/-- The acceleration stays between the maximal deceleration and zero. -/
theorem jerkPhase_mem (h : DecelLimits maxDecel maxJerk dt) (hlo : -maxDecel ≤ a)
    (hhi : a ≤ 0) :
    -maxDecel ≤ (jerkPhase maxDecel maxJerk dt v a).1 ∧
      (jerkPhase maxDecel maxJerk dt v a).1 ≤ 0 := by
  have hlimit : -maxDecel ≤ 0 := le_trans hlo hhi
  have hfinite : isFinite a = true :=
    isFinite_of_le_of_le (by simpa using h.decel.1) isFinite_zero hlo hhi
  have hlimitNan := (ne_nan_of_le hlimit).1
  have hzeroNan := (ne_nan_of_le hlimit).2
  unfold jerkPhase
  dsimp only
  split
  next hup =>
    have hstep : -maxJerk * dt ≤ 0 :=
      mul_le_zero (by simpa using h.jerk.1) (neg_le_zero h.jerk.2) h.dt.1 h.dt.2
    have hle := le_trans (add_le_self hfinite hstep) hhi
    split
    · exact ⟨le_refl hlimitNan, hlimit⟩
    next hcap => exact ⟨(not_lt (ne_nan_of_le hle).1 hlimitNan).1 hcap, hle⟩
  next =>
    generalize (if stdAbs a > 1e-9 then v / stdAbs a else 0) = tStop
    split
    · have hge := le_trans hlo
        (le_add_self hfinite (zero_le_mul h.jerk.1 h.jerk.2 h.dt.1 h.dt.2))
      split
      · exact ⟨hlimit, le_refl hzeroNan⟩
      next hover => exact ⟨hge, (not_lt hzeroNan (ne_nan_of_le hge).2).1 hover⟩
    · exact ⟨hlo, hhi⟩

/-- The speeds of a profile lie between zero and the current speed. -/
theorem jerkLimitedLoop_speeds_mem (h : DecelLimits maxDecel maxJerk dt) (capacity : ℕ)
    (t x : Double F) (hv : isFinite v = true) (hv0 : 0 ≤ v) (hlo : -maxDecel ≤ a)
    (hhi : a ≤ 0) :
    ∀ p ∈ (jerkLimitedLoop maxDecel maxJerk dt capacity t v a x).points,
      0 ≤ p.speedMps ∧ p.speedMps ≤ v := by
  induction capacity generalizing t v a x with
  | zero => simp [jerkLimitedLoop]
  | succ capacity ih =>
      have hzero : (0 : Double F) ≤ 0 := zero_le_zero
      rw [jerkLimitedLoop]
      split
      next hpos =>
        obtain ⟨hlo', hhi'⟩ := jerkPhase_mem (v := v) h hlo hhi
        dsimp only
        generalize (jerkPhase maxDecel maxJerk dt v a).1 = a' at hlo' hhi' ⊢
        have hfinite : isFinite a' = true :=
          isFinite_of_le_of_le (by simpa using h.decel.1) isFinite_zero hlo' hhi'
        have hle : v + a' * dt ≤ v :=
          add_le_self hv (mul_le_zero hfinite hhi' h.dt.1 h.dt.2)
        have hnext0 := zero_le_stdMax (v + a' * dt)
        have hnext : stdMax 0 (v + a' * dt) ≤ v := stdMax_le hv0 hle
        have hrest := ih (t + dt) (x + (v + stdMax 0 (v + a' * dt)) * 0.5 * dt)
          (isFinite_of_le_of_le isFinite_zero hv hnext0 hnext) hnext0 hlo' hhi'
        intro p hp
        rcases List.mem_cons.1 hp with rfl | hp
        · exact ⟨hv0, le_refl (ne_nan_of_isFinite hv)⟩
        · exact ⟨(hrest p hp).1, le_trans (hrest p hp).2 hnext⟩
      next =>
        intro p hp
        rw [List.mem_singleton.1 hp]
        exact ⟨hzero, hv0⟩

/-- A profile that is generated starts at a finite speed, and exceeds it nowhere. -/
theorem generateJerkLimitedStopProfile_mem {initialSpeed : Double F} {capacity : ℕ}
    (hok : (generateJerkLimitedStopProfile initialSpeed maxDecel maxJerk dt
      capacity).ok = true) :
    isFinite initialSpeed = true ∧
      ∀ p ∈ (generateJerkLimitedStopProfile initialSpeed maxDecel maxJerk dt
          capacity).points, 0 ≤ p.speedMps ∧ p.speedMps ≤ stdMax 0 initialSpeed := by
  obtain ⟨hin, hloop⟩ := generateJerkLimitedStopProfile_of_ok hok
  have nonneg {y : Double F} (hy : isFinite y = true) (h : ¬ y ≤ 0) : 0 ≤ y :=
    le_of_lt ((not_le (ne_nan_of_isFinite hy) zero_ne_nan).1 h)
  have hlimits : DecelLimits maxDecel maxJerk dt :=
    ⟨⟨hin.decel, nonneg hin.decel hin.not_decel_le⟩,
      ⟨hin.jerk, nonneg hin.jerk hin.not_jerk_le⟩, hin.step, nonneg hin.step hin.not_dt_le⟩
  rw [hloop]
  exact ⟨hin.speed, jerkLimitedLoop_speeds_mem hlimits capacity 0 0
    (isFinite_stdMax isFinite_zero hin.speed) (zero_le_stdMax _)
    (neg_le_zero hlimits.decel.2) zero_le_zero⟩

omit [IsStrictOrderedRing K] in
/-- The first sample of a profile has the initial speed. -/
theorem generateJerkLimitedStopProfile_head {initialSpeed : Double F} {capacity : ℕ}
    (hpos : 0 < initialSpeed)
    (hok : (generateJerkLimitedStopProfile initialSpeed maxDecel maxJerk dt
      capacity).ok = true) :
    ∃ s, (generateJerkLimitedStopProfile initialSpeed maxDecel maxJerk dt
      capacity).points[0]? = some s ∧ s.speedMps = initialSpeed := by
  obtain ⟨hin, hloop⟩ := generateJerkLimitedStopProfile_of_ok hok
  have hmax : stdMax 0 initialSpeed = initialSpeed := if_pos hpos
  rw [hloop, hmax]
  cases capacity with
  | zero => exact absurd rfl hin.capacity
  | succ capacity =>
      rw [jerkLimitedLoop, if_pos hpos]
      exact ⟨_, rfl, rfl⟩

end Motion

end SafetyCore
