import Mathlib.Algebra.Order.Ring.Rat
import Mathlib.Tactic.Ring
import SafetyCore.Control.SafetyPid.Limits

/-!
# Feedforward without gains

With zero gains the controller steps from the last output to zero, and the
acceleration limit may stop it on the way. The last output is the feedforward of
the call before, so what is left of that one is added to the feedforward of this
one. The value is the pure feedforward exactly at the calls that leave nothing of
the last output, and at those where the limit of the speed hides what is left.
-/

namespace SafetyCore

open Arithmetic Transition

/-- Two numbers are clamped to the same exactly if they are equal or lie beyond the same
limit. -/
theorem clamp_add_eq_clamp_iff {K : Type*} [Field K] [LinearOrder K]
    [IsStrictOrderedRing K] {m : K} (hm : 0 < m) (s r : K) :
    max (-m) (min (s + r) m) = max (-m) (min s m) ↔
      r = 0 ∨ m ≤ s ∧ m ≤ s + r ∨ s ≤ -m ∧ s + r ≤ -m := by
  constructor
  · intro h
    rcases le_total m s with hs | hs
    · rw [min_eq_right hs, max_eq_right (by linarith : -m ≤ m), max_eq_iff] at h
      refine .inr (.inl ⟨hs, ?_⟩)
      rcases h with ⟨h, -⟩ | ⟨h, -⟩
      · linarith
      · exact min_eq_right_iff.1 h
    rcases le_total s (-m) with hs' | hs'
    · rw [min_eq_left hs, max_eq_left hs', max_eq_left_iff, min_le_iff] at h
      exact .inr (.inr ⟨hs', h.resolve_right (by linarith)⟩)
    -- Between the limits the clamped sum can only be the number itself.
    rw [min_eq_left hs, max_eq_right hs'] at h
    rcases le_total m (s + r) with hr | hr
    · rw [min_eq_right hr, max_eq_right (by linarith)] at h
      exact .inr (.inl ⟨h.le, hr⟩)
    rcases le_total (s + r) (-m) with hr' | hr'
    · rw [min_eq_left hr, max_eq_left hr'] at h
      exact .inr (.inr ⟨h.ge, hr'⟩)
    · rw [min_eq_left hr, max_eq_right hr'] at h
      exact .inl (by linarith)
  · rintro (rfl | ⟨hs, hr⟩ | ⟨hs, hr⟩)
    · rw [add_zero]
    · rw [min_eq_right hs, min_eq_right hr]
    · rw [min_eq_left (by linarith), min_eq_left (by linarith), max_eq_left hs,
        max_eq_left hr]

namespace SafetyPidController

section Calls

variable {K : Type*} [Field K] [LinearOrder K] (cfg : SystemConfig K)
  (c : SafetyPidController K)

def ZeroGains (gains : PidGains K) : Prop :=
  gains.kp = 0 ∧ gains.ki = 0 ∧ gains.kd = 0

/-- A call of the feedforward overload that finds the localization fresh, or the mark of
a localization update. -/
def FreshFeedforward : Call K → Prop
  | .computeFeedforward now _ _ _ _ _ => c.localizationValid now = true
  | .plain (.markLocalizationUpdate _) => True
  | .plain _ => False

/-- The feedforward of a call over one control period. -/
def feedforwardTerm (ffVelocity ffAcceleration : K) : K :=
  ffVelocity + ffAcceleration * seconds cfg.timing.controlPeriod

/-- The call puts out its feedforward, clamped to the limit of the speed. -/
def PureFeedforward : Call K → Prop
  | .computeFeedforward now nowReset setpoint measurement ffVelocity ffAcceleration =>
      callComponent.output c (.computeFeedforward now nowReset setpoint measurement
          ffVelocity ffAcceleration) =
        some (stdClamp (feedforwardTerm cfg ffVelocity ffAcceleration)
          (-cfg.envelope.maxSpeedMps) cfg.envelope.maxSpeedMps)
  | .plain _ => True

/-- What a step towards zero by at most `maxDelta` leaves of the last output. -/
def leftover (maxSpeed last maxDelta : K) : K :=
  if maxDelta < last then min (last - maxDelta) maxSpeed
  else if last < -maxDelta then max (last + maxDelta) (-maxSpeed)
  else 0

/-- What a call has besides its feedforward: the rest of the last output and, where no
control period is configured, the feedforward acceleration over the default step. -/
def besidesFeedforward (now : ℤ) (ffAcceleration : K) : K :=
  leftover cfg.envelope.maxSpeedMps c.lastOutput
      (cfg.envelope.maxAccelMps2 * c.stepDt now) +
    ffAcceleration * (c.configuredDt - seconds cfg.timing.controlPeriod)

/-- The call has nothing besides its feedforward, or the limit of the speed hides it. -/
def Unmixed : Call K → Prop
  | .computeFeedforward now _ _ _ ffVelocity ffAcceleration =>
      let ff := feedforwardTerm cfg ffVelocity ffAcceleration
      let rest := c.besidesFeedforward cfg now ffAcceleration
      rest = 0 ∨
        cfg.envelope.maxSpeedMps ≤ ff ∧ cfg.envelope.maxSpeedMps ≤ ff + rest ∨
        ff ≤ -cfg.envelope.maxSpeedMps ∧ ff + rest ≤ -cfg.envelope.maxSpeedMps
  | .plain _ => True

instance : ∀ e, Decidable (c.FreshFeedforward e)
  | .computeFeedforward now _ _ _ _ _ =>
      inferInstanceAs (Decidable (c.localizationValid now = true))
  | .plain (.markLocalizationUpdate _) => inferInstanceAs (Decidable True)
  | .plain (.setGains _) | .plain (.reset _) | .plain (.compute _ _ _ _) =>
      inferInstanceAs (Decidable False)

instance : ∀ e, Decidable (c.Unmixed cfg e)
  | .computeFeedforward _ _ _ _ _ _ => inferInstanceAs (Decidable (_ ∨ _ ∧ _ ∨ _ ∧ _))
  | .plain _ => inferInstanceAs (Decidable True)

end Calls

section Runs

variable {K : Type*} [Field K] [LinearOrder K] {cfg : SystemConfig K}
  {c : SafetyPidController K}

/-- The calls of the run keep the configuration and the gains. -/
theorem feedforward_keeps (e : Call K) (hfresh : c.FreshFeedforward e)
    (h : c.config = some cfg ∧ ZeroGains c.gains) :
    (callComponent.next c e).config = some cfg ∧
      ZeroGains (callComponent.next c e).gains := by
  cases e with
  | computeFeedforward now nowReset setpoint measurement ffVelocity ffAcceleration =>
      dsimp only [callComponent]
      rw [computeFeedforward_config, computeFeedforward_gains]
      exact h
  | plain e =>
      cases e with
      | markLocalizationUpdate stamp => exact h
      | setGains gains => exact hfresh.elim
      | reset now => exact hfresh.elim
      | compute now nowReset setpoint measurement => exact hfresh.elim

variable [IsStrictOrderedRing K]

/-- A controller is constructed with zero gains. -/
theorem zeroGains_default : ZeroGains ({} : PidGains K) := by
  norm_num [ZeroGains]

/-- The limits of the controller, applied to a step to zero. -/
theorem leftover_eq_clamp {maxSpeed last maxDelta : K} (hspeed : 0 < maxSpeed)
    (hdelta : 0 < maxDelta) :
    leftover maxSpeed last maxDelta =
      max (-maxSpeed) (min (max (last - maxDelta) (min 0 (last + maxDelta))) maxSpeed) := by
  unfold leftover
  split
  next h =>
    have hstep : max (last - maxDelta) (min 0 (last + maxDelta)) = last - maxDelta := by
      rw [min_eq_left (by linarith), max_eq_left (by linarith)]
    rw [hstep, max_eq_right (le_min (by linarith) (by linarith))]
  next h =>
    split
    next h' =>
      have hstep : max (last - maxDelta) (min 0 (last + maxDelta)) = last + maxDelta := by
        rw [min_eq_right (by linarith), max_eq_right (by linarith)]
      rw [hstep, min_eq_left (by linarith), max_comm]
    next h' =>
      have hstep : max (last - maxDelta) (min 0 (last + maxDelta)) = 0 := by
        rw [min_eq_left (by linarith), max_eq_right (by linarith)]
      rw [hstep, min_eq_left hspeed.le, max_eq_right (by linarith)]

/-- Without gains the limits step from the last output to zero. -/
theorem compute_of_zeroGains (hcfg : c.config = some cfg)
    (hspeed : 0 < cfg.envelope.maxSpeedMps) (haccel : 0 < cfg.envelope.maxAccelMps2)
    (hgains : ZeroGains c.gains) {now : ℤ} (hvalid : c.localizationValid now = true)
    (nowReset : ℤ) (setpoint measurement : K) :
    (c.compute now nowReset setpoint measurement).2 =
      leftover cfg.envelope.maxSpeedMps c.lastOutput
        (cfg.envelope.maxAccelMps2 * c.stepDt now) := by
  obtain ⟨hkp, hki, hkd⟩ := hgains
  have hmax : c.speedLimit = some cfg.envelope.maxSpeedMps :=
    speedLimit_eq_some.2 ⟨cfg, hcfg, hspeed, rfl⟩
  have hlimit : c.accelLimit = some cfg.envelope.maxAccelMps2 :=
    accelLimit_eq_some.2 ⟨cfg, hcfg, haccel, rfl⟩
  have hsum : c.pidSum (setpoint - measurement) (c.stepDt now) = 0 := by
    rw [pidSum, hkp, hki, hkd, zero_mul, zero_mul, zero_mul, add_zero, add_zero]
  have hzero : c.clampSpeed 0 = 0 := by
    rw [clampSpeed_of_limit hmax, min_eq_left hspeed.le, max_eq_right (by linarith)]
  rw [compute_of_valid c nowReset setpoint measurement hvalid]
  dsimp only
  rw [hsum, hzero, clampAccel_of_limit hlimit (c.stepDt_pos now), clampSpeed_of_limit hmax,
    leftover_eq_clamp hspeed (mul_pos haccel (c.stepDt_pos now))]

/-- One call returns its pure feedforward exactly if it is unmixed. -/
theorem pureFeedforward_iff (hcfg : c.config = some cfg)
    (hspeed : 0 < cfg.envelope.maxSpeedMps) (haccel : 0 < cfg.envelope.maxAccelMps2)
    (hgains : ZeroGains c.gains) (e : Call K) (hfresh : c.FreshFeedforward e) :
    c.PureFeedforward cfg e ↔ c.Unmixed cfg e := by
  cases e with
  | plain e => exact iff_of_true trivial trivial
  | computeFeedforward now nowReset setpoint measurement ffVelocity ffAcceleration =>
      have hpid := compute_of_zeroGains hcfg hspeed haccel hgains hfresh nowReset setpoint
        measurement
      have hmax : c.speedLimit = some cfg.envelope.maxSpeedMps :=
        speedLimit_eq_some.2 ⟨cfg, hcfg, hspeed, rfl⟩
      dsimp only [PureFeedforward, Unmixed, callComponent]
      rw [Option.some.injEq, computeFeedforward_eq]
      dsimp only
      have hsum : (c.compute now nowReset setpoint measurement).2 + ffVelocity +
            ffAcceleration * c.configuredDt =
          feedforwardTerm cfg ffVelocity ffAcceleration +
            c.besidesFeedforward cfg now ffAcceleration := by
        rw [hpid, feedforwardTerm, besidesFeedforward]
        ring
      rw [hsum, clampSpeed_of_limit hmax, stdClamp_eq_max_min _ (by linarith),
        clamp_add_eq_clamp_iff hspeed]

/-- For every controller with positive limits and zero gains and every run of fresh calls of
the feedforward overload: each value is the pure feedforward exactly if each call is
unmixed. -/
theorem run_pureFeedforward_iff (c : SafetyPidController K) (cfg : SystemConfig K)
    (hcfg : c.config = some cfg) (hspeed : 0 < cfg.envelope.maxSpeedMps)
    (haccel : 0 < cfg.envelope.maxAccelMps2) (hgains : ZeroGains c.gains)
    (es : List (Call K)) (hfresh : callComponent.Along FreshFeedforward c es) :
    callComponent.Along (PureFeedforward cfg) c es ↔
      callComponent.Along (Unmixed cfg) c es :=
  hfresh.congr (I := fun c => c.config = some cfg ∧ ZeroGains c.gains)
    (fun _ e hfresh h => feedforward_keeps e hfresh h)
    (fun _ e hfresh h => pureFeedforward_iff h.1 hspeed haccel h.2 e hfresh)
    ⟨hcfg, hgains⟩

end Runs

/-- A constant feedforward velocity of 0.05 m/s is passed through. -/
theorem run_pureFeedforward_iff_constant :
    callComponent.Along (PureFeedforward makeConfig)
        ((create 0 0).applyConfig (makeConfig : SystemConfig ℚ) 0).1
        [.computeFeedforward 100000000 0 1.0 0 0.05 0,
          .computeFeedforward 200000000 0 1.0 0 0.05 0] ↔
      callComponent.Along (Unmixed makeConfig)
        ((create 0 0).applyConfig (makeConfig : SystemConfig ℚ) 0).1
        [.computeFeedforward 100000000 0 1.0 0 0.05 0,
          .computeFeedforward 200000000 0 1.0 0 0.05 0] :=
  run_pureFeedforward_iff _ makeConfig (by rw [applyConfig_fst]; rfl) (by decide +kernel)
    (by decide +kernel) (by rw [applyConfig_fst]; exact zeroGains_default) _
    (by decide +kernel)

/-- After a feedforward velocity of 1 m/s the next call, without feedforward, still
returns 0.925 m/s. -/
theorem feedforward_not_always_pure :
    ¬ ∀ (c : SafetyPidController ℚ) (cfg : SystemConfig ℚ) (now : ℤ),
      (c.applyConfig cfg now).2 = .ok → ZeroGains c.gains →
      ∀ es : List (Call ℚ),
        callComponent.Along FreshFeedforward (c.applyConfig cfg now).1 es →
        callComponent.Along (PureFeedforward cfg) (c.applyConfig cfg now).1 es := by
  intro h
  have hpure := h (create 0 0) makeConfig 0 (by decide +kernel) zeroGains_default
    [.computeFeedforward 100000000 0 0 0 1.0 0, .computeFeedforward 200000000 0 0 0 0 0]
    (by decide +kernel)
  have hvalue : callComponent.output
      (callComponent.next ((create 0 0).applyConfig (makeConfig : SystemConfig ℚ) 0).1
        (.computeFeedforward 100000000 0 0 0 1.0 0))
      (.computeFeedforward 200000000 0 0 0 0 0) = some 0.925 := by decide +kernel
  exact absurd (hvalue.symm.trans hpure.2.1) (by decide +kernel)

end SafetyPidController

end SafetyCore
