import Mathlib.Algebra.Order.Field.Basic
import Mathlib.Tactic.Linarith
import Mathlib.Tactic.NormNum
import SafetyCore.Control.SafetyPid.BoundedOutput

/-!
# The limits of the controller in exact arithmetic

A configuration acts on the controller through four values: the limits of the
speed and of the acceleration, which count only where they are positive, the
timeout of the localization, which counts unless it is zero, and the control
period. In exact arithmetic every time step is positive, and the acceleration limit
is a clamp around the last output.
-/

namespace SafetyCore

open Arithmetic

namespace SafetyPidController

section Effective

variable {α : Type*} [Zero α] [OfScientific α] [LE α] [DecidableLE α]
  (c : SafetyPidController α)

/-- The limit of the speed, where there is one. -/
def speedLimit : Option α :=
  match c.config with
  | none => none
  | some cfg =>
      if cfg.envelope.maxSpeedMps ≤ 0 then none else some cfg.envelope.maxSpeedMps

/-- The limit of the acceleration, where there is one. -/
def accelLimit : Option α :=
  match c.config with
  | none => none
  | some cfg =>
      if cfg.envelope.maxAccelMps2 ≤ 0 then none else some cfg.envelope.maxAccelMps2

end Effective

/-- The timeout of the localization, where it is guarded. -/
def guardTimeout {α : Type*} [OfScientific α] (c : SafetyPidController α) : Option ℤ :=
  match c.config with
  | none => none
  | some cfg =>
      if cfg.timing.localizationTimeout = 0 then none
      else some cfg.timing.localizationTimeout

theorem localizationValid_eq {α : Type*} [OfScientific α] (c : SafetyPidController α)
    (stamp : ℤ) :
    c.localizationValid stamp =
      c.guardTimeout.all fun timeout => stamp - c.lastLocalizationUpdate ≤ timeout := by
  unfold localizationValid guardTimeout
  cases c.config with
  | none => rfl
  | some cfg =>
      dsimp only
      split <;> rfl

/-- A mark late enough makes the localization fresh. -/
theorem localizationValid_mark {α : Type*} [OfScientific α] {c : SafetyPidController α}
    {now stamp : ℤ} (h : now + |c.guardTimeout.getD 0| ≤ stamp) :
    (c.markLocalizationUpdate stamp).localizationValid now = true := by
  have hguard : (c.markLocalizationUpdate stamp).guardTimeout = c.guardTimeout := rfl
  rw [localizationValid_eq, hguard]
  cases ht : c.guardTimeout with
  | none => rfl
  | some timeout =>
      rw [ht, Option.getD_some] at h
      have habs := neg_abs_le timeout
      exact decide_eq_true (show now - stamp ≤ timeout by omega)

section Exact

variable {K : Type*} [Field K] [LinearOrder K] {c : SafetyPidController K}

theorem speedLimit_eq_some {m : K} :
    c.speedLimit = some m ↔ ∃ cfg, c.config = some cfg ∧
      0 < cfg.envelope.maxSpeedMps ∧ cfg.envelope.maxSpeedMps = m := by
  cases h : c.config <;> simp [speedLimit, h]

theorem accelLimit_eq_some {a : K} :
    c.accelLimit = some a ↔ ∃ cfg, c.config = some cfg ∧
      0 < cfg.envelope.maxAccelMps2 ∧ cfg.envelope.maxAccelMps2 = a := by
  cases h : c.config <;> simp [accelLimit, h]

theorem speedLimit_pos {m : K} (h : c.speedLimit = some m) : 0 < m := by
  obtain ⟨cfg, -, hm, rfl⟩ := speedLimit_eq_some.1 h
  exact hm

theorem accelLimit_pos {a : K} (h : c.accelLimit = some a) : 0 < a := by
  obtain ⟨cfg, -, ha, rfl⟩ := accelLimit_eq_some.1 h
  exact ha

theorem clampSpeed_of_none (h : c.speedLimit = none) (value : K) :
    c.clampSpeed value = value := by
  unfold clampSpeed
  cases hcfg : c.config with
  | none => rfl
  | some cfg =>
      simp only [speedLimit, hcfg, ite_eq_left_iff, reduceCtorEq, imp_false,
        not_not] at h
      exact if_pos h

theorem clampAccel_of_none (h : c.accelLimit = none) (desired dt : K) :
    c.clampAccel desired dt = desired := by
  unfold clampAccel
  cases hcfg : c.config with
  | none => rfl
  | some cfg =>
      simp only [accelLimit, hcfg, ite_eq_left_iff, reduceCtorEq, imp_false,
        not_not] at h
      exact if_pos (.inl h)

theorem compute_value {now : ℤ} (hvalid : c.localizationValid now = true) (nowReset : ℤ)
    (setpoint measurement : K) :
    (c.compute now nowReset setpoint measurement).2 =
      c.clampAccel (c.clampSpeed (c.pidSum (setpoint - measurement) (c.stepDt now)))
        (c.stepDt now) := by
  rw [compute_of_valid c nowReset setpoint measurement hvalid]

/-- Every number is finite here, and `compute` keeps the configuration. -/
theorem computeFeedforward_eq (c : SafetyPidController K) (now nowReset : ℤ)
    (setpoint measurement ffVelocity ffAcceleration : K) :
    c.computeFeedforward now nowReset setpoint measurement ffVelocity ffAcceleration =
      let pid := c.compute now nowReset setpoint measurement
      let output := c.clampSpeed (pid.2 + ffVelocity + ffAcceleration * c.configuredDt)
      ({ pid.1 with lastOutput := output }, output) := by
  have hconfig : (c.compute now nowReset setpoint measurement).1.config = c.config :=
    compute_config nowReset setpoint measurement
  unfold computeFeedforward
  generalize c.compute now nowReset setpoint measurement = r at hconfig ⊢
  obtain ⟨c', pidOutput⟩ := r
  dsimp only at hconfig ⊢
  rw [if_neg (by exact nofun), clampSpeed, clampSpeed, configuredDt, configuredDt, hconfig]

theorem stepDt_of_first (h : c.firstUpdate = true) (now : ℤ) :
    c.stepDt now = c.configuredDt := by
  simp [stepDt, h]

/-- A later call counts the time since the last one, if that is long enough. -/
theorem stepDt_of_later (h : c.firstUpdate = false) (now : ℤ) :
    c.stepDt now =
      if 1e-6 < (seconds (now - c.lastUpdate) : K) then seconds (now - c.lastUpdate)
      else c.configuredDt := by
  simp [stepDt, h]

variable [IsStrictOrderedRing K] (c)

theorem configuredDt_pos : 0 < c.configuredDt := by
  have hdefault : (0 : K) < kDefaultDtSeconds := by norm_num [kDefaultDtSeconds]
  unfold configuredDt
  cases c.config with
  | none => exact hdefault
  | some cfg =>
      dsimp only
      split
      · assumption
      · exact hdefault

theorem stepDt_pos (now : ℤ) : 0 < c.stepDt now := by
  unfold stepDt
  dsimp only
  split
  next h =>
    rw [Bool.and_eq_true, decide_eq_true_eq] at h
    have hshort : (0 : K) < 1e-6 := by norm_num
    exact hshort.trans h.2
  next => exact c.configuredDt_pos

variable {c}

theorem clampSpeed_of_limit {m : K} (h : c.speedLimit = some m) (value : K) :
    c.clampSpeed value = max (-m) (min value m) := by
  have hm := speedLimit_pos h
  obtain ⟨cfg, hcfg, hpos, rfl⟩ := speedLimit_eq_some.1 h
  unfold clampSpeed
  rw [hcfg]
  exact (if_neg hpos.not_ge).trans (stdClamp_eq_max_min value (by linarith))

/-- The acceleration limit clamps around the last output. -/
theorem clampAccel_of_limit {a dt : K} (h : c.accelLimit = some a) (hdt : 0 < dt)
    (desired : K) :
    c.clampAccel desired dt =
      c.clampSpeed
        (max (c.lastOutput - a * dt) (min desired (c.lastOutput + a * dt))) := by
  obtain ⟨cfg, hcfg, hpos, rfl⟩ := accelLimit_eq_some.1 h
  have hδ : 0 < cfg.envelope.maxAccelMps2 * dt := mul_pos hpos hdt
  unfold clampAccel
  rw [hcfg]
  dsimp only
  rw [if_neg (not_or.2 ⟨hpos.not_ge, hdt.not_ge⟩)]
  congr 1
  split
  next hup =>
    rw [min_eq_right (by linarith), max_eq_right (by linarith)]
  next hup =>
    rw [min_eq_left (by linarith)]
    split
    next hdown => rw [max_eq_left (by linarith)]
    next hdown => rw [max_eq_right (by linarith)]

/-! ## Outputs within the limits -/

theorem abs_clampSpeed_le {m : K} (h : c.speedLimit = some m) (value : K) :
    |c.clampSpeed value| ≤ m := by
  have hm := speedLimit_pos h
  rw [clampSpeed_of_limit h, abs_le]
  exact ⟨le_max_left _ _, max_le (by linarith) (min_le_right _ _)⟩

/-- Between two values within the speed limit the acceleration limit alone decides. -/
theorem clampAccel_of_within {m a dt : K} (hm : c.speedLimit = some m)
    (ha : c.accelLimit = some a) (hdt : 0 < dt) (hlast : |c.lastOutput| ≤ m) {desired : K}
    (hdesired : |desired| ≤ m) :
    c.clampAccel desired dt =
      max (c.lastOutput - a * dt) (min desired (c.lastOutput + a * dt)) := by
  have hδ := mul_pos (accelLimit_pos ha) hdt
  obtain ⟨hlo, hhi⟩ := abs_le.1 hlast
  obtain ⟨hlo', hhi'⟩ := abs_le.1 hdesired
  have habove : -m ≤ max (c.lastOutput - a * dt) (min desired (c.lastOutput + a * dt)) :=
    le_max_of_le_right (le_min hlo' (by linarith))
  have hbelow : max (c.lastOutput - a * dt) (min desired (c.lastOutput + a * dt)) ≤ m :=
    max_le (by linarith) ((min_le_left _ _).trans hhi')
  rw [clampAccel_of_limit ha hdt, clampSpeed_of_limit hm, min_eq_left hbelow,
    max_eq_right habove]

/-- With or without a limit of the acceleration. -/
theorem abs_clampAccel_le {m dt : K} (hm : c.speedLimit = some m) (hdt : 0 < dt) (value : K) :
    |c.clampAccel (c.clampSpeed value) dt| ≤ m := by
  cases ha : c.accelLimit with
  | none =>
      rw [clampAccel_of_none ha]
      exact abs_clampSpeed_le hm value
  | some a =>
      rw [clampAccel_of_limit ha hdt]
      exact abs_clampSpeed_le hm _

theorem compute_abs_le {m : K} (hm : c.speedLimit = some m) (now nowReset : ℤ)
    (setpoint measurement : K) : |(c.compute now nowReset setpoint measurement).2| ≤ m := by
  cases hvalid : c.localizationValid now with
  | false =>
      rw [compute_of_stale nowReset setpoint measurement hvalid, abs_zero]
      exact (speedLimit_pos hm).le
  | true =>
      rw [compute_value hvalid]
      exact abs_clampAccel_le hm (c.stepDt_pos now) _

theorem computeFeedforward_abs_le {m : K} (hm : c.speedLimit = some m) (now nowReset : ℤ)
    (setpoint measurement ffVelocity ffAcceleration : K) :
    |(c.computeFeedforward now nowReset setpoint measurement ffVelocity
      ffAcceleration).2| ≤ m := by
  rw [computeFeedforward_eq]
  exact abs_clampSpeed_le hm _

/-- A call changes the output by no more than the acceleration limit allows in its step. -/
theorem compute_sub_lastOutput_le {m a : K} (hm : c.speedLimit = some m)
    (ha : c.accelLimit = some a) (hlast : |c.lastOutput| ≤ m) {now : ℤ}
    (hvalid : c.localizationValid now = true) (nowReset : ℤ) (setpoint measurement : K) :
    |(c.compute now nowReset setpoint measurement).2 - c.lastOutput| ≤ a * c.stepDt now := by
  have hδ := mul_pos (accelLimit_pos ha) (c.stepDt_pos now)
  rw [compute_value hvalid, clampAccel_of_within hm ha (c.stepDt_pos now) hlast
    (abs_clampSpeed_le hm _), abs_sub_le_iff]
  constructor
  · rw [sub_le_iff_le_add']
    exact max_le (by linarith) (min_le_right _ _)
  · rw [sub_le_comm]
    exact le_max_left _ _

end Exact

/-! ## Accepted configurations -/

section Accepted

variable {K : Type*} [Field K] [LinearOrder K] {cfg : SystemConfig K}

/-- An accepted configuration limits the speed and the acceleration. -/
theorem limits_of_applyConfig_ok {c : SafetyPidController K} {now : ℤ}
    (hok : (c.applyConfig cfg now).2 = .ok) {c' : SafetyPidController K}
    (hcfg : c'.config = some cfg) :
    c'.speedLimit = some cfg.envelope.maxSpeedMps ∧
      c'.accelLimit = some cfg.envelope.maxAccelMps2 := by
  unfold applyConfig at hok
  dsimp only at hok
  split at hok
  case isTrue => exact absurd (congrArg Result.code hok) (by simp [Result.fault, Result.ok])
  case isFalse hpos =>
    obtain ⟨hspeed, haccel⟩ := not_or.1 hpos
    exact ⟨speedLimit_eq_some.2 ⟨cfg, hcfg, not_le.1 hspeed, rfl⟩,
      accelLimit_eq_some.2 ⟨cfg, hcfg, not_le.1 haccel, rfl⟩⟩

end Accepted

end SafetyPidController

end SafetyCore
