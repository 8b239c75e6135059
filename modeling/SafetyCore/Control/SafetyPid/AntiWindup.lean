import Mathlib.Tactic.Ring
import SafetyCore.Control.SafetyPid.Limits

/-!
# The bound of the integral

A call clamps the integral first, and takes what the acceleration limit cuts off the output,
divided by `ki`, off the integral afterwards. Nothing clamps it again. The bound of the gains
is kept exactly if the integral term can give back the whole cut, which with a large
proportional gain or a small integral gain it cannot.
-/

namespace SafetyCore

open Arithmetic Transition

namespace SafetyPidController

variable {K : Type*} [Field K] [LinearOrder K]

/-- The output that a call asks for, within the speed limit. -/
def demand (maxSpeed : K) (c : SafetyPidController K) (now : ℤ) (setpoint measurement : K) :
    K :=
  max (-maxSpeed) (min (c.pidSum (setpoint - measurement) (c.stepDt now)) maxSpeed)

/-- The integral term of the output that a call asks for. -/
def integralTerm (c : SafetyPidController K) (now : ℤ) (setpoint measurement : K) : K :=
  c.gains.ki * c.accumulated (setpoint - measurement) (c.stepDt now)

/-- The acceleration limit cuts more off the output than the integral term has room for,
upwards or downwards. A cut of a billionth does not count. -/
def Overwinds (maxSpeed maxAccel : K) (c : SafetyPidController K) (now : ℤ)
    (setpoint measurement : K) : Prop :=
  let up := max (c.demand maxSpeed now setpoint measurement - c.lastOutput -
    maxAccel * c.stepDt now) 0
  let down := max (c.lastOutput - c.demand maxSpeed now setpoint measurement -
    maxAccel * c.stepDt now) 0
  let room := |c.gains.ki| * c.gains.maxIntegral
  let term := c.integralTerm now setpoint measurement
  (1e-9 < up ∧ room + term < up) ∨ (1e-9 < down ∧ room - term < down)

/-! ## One call -/

variable [IsStrictOrderedRing K] {c : SafetyPidController K} {maxSpeed maxAccel : K}

theorem abs_accumulated_le (hM : 0 < c.gains.maxIntegral) (error dt : K) :
    |c.accumulated error dt| ≤ c.gains.maxIntegral := by
  unfold accumulated
  rw [if_pos hM, stdClamp_eq_max_min _ (by linarith), abs_le]
  exact ⟨le_max_left _ _, max_le (by linarith) (min_le_right _ _)⟩

/-- The integral after a division by `ki` is in its bound if the term is in its own. -/
theorem abs_sub_div_le_iff {ki integral cut bound : K} (hki : ki ≠ 0) :
    |integral - cut / ki| ≤ bound ↔ |ki * integral - cut| ≤ |ki| * bound := by
  have hpos : 0 < |ki| := abs_pos.2 hki
  have hterm : ki * integral - cut = ki * (integral - cut / ki) := by
    rw [mul_sub, mul_div_cancel₀ _ hki]
  rw [hterm, abs_mul, mul_le_mul_iff_right₀ hpos]

/-- What is cut off a value that is clamped around `last`. -/
theorem sub_clamp_around {last value reach : K} (hreach : 0 < reach) :
    value - max (last - reach) (min value (last + reach)) =
      max (value - last - reach) 0 - max (last - value - reach) 0 := by
  rcases le_total (last + reach) value with hup | hup
  · rw [min_eq_right hup, max_eq_right (by linarith : last - reach ≤ last + reach),
      max_eq_left (by linarith), max_eq_right (by linarith)]
    ring
  · rw [min_eq_left hup, max_eq_right (by linarith : value - last - reach ≤ 0)]
    rcases le_total value (last - reach) with hdown | hdown
    · rw [max_eq_left hdown, max_eq_left (by linarith)]
      ring
    · rw [max_eq_right hdown, max_eq_right (by linarith)]
      ring

/-- A term within its bound stays there when something is taken off, if that is no more than
the room below it. -/
theorem abs_sub_le_iff_le {term cut bound : K} (hterm : |term| ≤ bound) (hcut : 0 ≤ cut) :
    |term - cut| ≤ bound ↔ cut ≤ bound + term := by
  obtain ⟨-, hhi⟩ := abs_le.1 hterm
  rw [abs_le]
  constructor
  · rintro ⟨hlo, -⟩
    linarith
  · exact fun h => ⟨by linarith, by linarith⟩

/-- The correction for a cut upwards keeps the bound exactly if the cut is not beyond the
room. -/
theorem abs_corrected_le_iff_of_nonneg {ki integral bound cut : K} (hki : ki ≠ 0)
    (hintegral : |integral| ≤ bound) (hcut : 0 ≤ cut) :
    |if 1e-9 < cut then integral - cut / ki else integral| ≤ bound ↔
      ¬ (1e-9 < cut ∧ |ki| * bound + ki * integral < cut) := by
  by_cases hcounts : 1e-9 < cut
  · have hterm : |ki * integral| ≤ |ki| * bound := by
      rw [abs_mul]
      exact mul_le_mul_of_nonneg_left hintegral (abs_nonneg ki)
    rw [if_pos hcounts, abs_sub_div_le_iff hki, abs_sub_le_iff_le hterm hcut,
      and_iff_right hcounts, not_lt]
  · rw [if_neg hcounts]
    exact iff_of_true hintegral fun h => hcounts h.1

/-- A cut downwards is one upwards for the opposite integral. -/
theorem abs_corrected_le_iff {ki integral bound up down : K} (hki : ki ≠ 0)
    (hintegral : |integral| ≤ bound) (hup : 0 ≤ up) (hdown : 0 ≤ down)
    (hone : up = 0 ∨ down = 0) :
    |if 1e-9 < |up - down| then integral - (up - down) / ki else integral| ≤ bound ↔
      ¬ ((1e-9 < up ∧ |ki| * bound + ki * integral < up) ∨
        (1e-9 < down ∧ |ki| * bound - ki * integral < down)) := by
  have htiny : ¬ (1e-9 : K) < 0 := by norm_num
  rcases hone with rfl | rfl
  · have hopposite : |(-integral)| ≤ bound := (abs_neg integral).trans_le hintegral
    have hiff := abs_corrected_le_iff_of_nonneg hki hopposite hdown
    have hflip : |if 1e-9 < down then -integral - down / ki else -integral| =
        |if 1e-9 < down then integral - -down / ki else integral| := by
      rw [← abs_neg, apply_ite Neg.neg, neg_neg, neg_sub, neg_div, sub_neg_eq_add,
        sub_neg_eq_add, add_comm]
    rw [hflip, mul_neg, ← sub_eq_add_neg] at hiff
    rw [zero_sub, abs_neg, abs_of_nonneg hdown, hiff]
    simp only [htiny, false_and, false_or]
  · rw [sub_zero, abs_of_nonneg hup, abs_corrected_le_iff_of_nonneg hki hintegral hup]
    simp only [htiny, false_and, or_false]

/-- The integral after a call, by the cut of the acceleration limit. -/
theorem compute_integral (hm : c.speedLimit = some maxSpeed)
    (ha : c.accelLimit = some maxAccel) (hlast : |c.lastOutput| ≤ maxSpeed)
    (hki : c.gains.ki ≠ 0) {now : ℤ} (hvalid : c.localizationValid now = true)
    (nowReset : ℤ) (setpoint measurement : K) :
    let cut := max (c.demand maxSpeed now setpoint measurement - c.lastOutput -
        maxAccel * c.stepDt now) 0 -
      max (c.lastOutput - c.demand maxSpeed now setpoint measurement -
        maxAccel * c.stepDt now) 0
    (c.compute now nowReset setpoint measurement).1.integral =
      if 1e-9 < |cut| then
        c.accumulated (setpoint - measurement) (c.stepDt now) - cut / c.gains.ki
      else c.accumulated (setpoint - measurement) (c.stepDt now) := by
  have hreach : 0 < maxAccel * c.stepDt now := mul_pos (accelLimit_pos ha) (c.stepDt_pos now)
  have hdemand : c.clampSpeed (c.pidSum (setpoint - measurement) (c.stepDt now)) =
      c.demand maxSpeed now setpoint measurement := clampSpeed_of_limit hm _
  have hwithin := abs_clampSpeed_le hm (c.pidSum (setpoint - measurement) (c.stepDt now))
  rw [hdemand] at hwithin
  rw [compute_of_valid c nowReset setpoint measurement hvalid]
  dsimp only
  rw [hdemand, clampAccel_of_within hm ha (c.stepDt_pos now) hlast hwithin,
    sub_clamp_around hreach, stdAbs_eq_abs]
  simp only [hki, ne_eq, not_false_eq_true, and_true]

/-- A call keeps the integral within its bound exactly if it does not overwind. -/
theorem abs_compute_integral_le_iff (hm : c.speedLimit = some maxSpeed)
    (ha : c.accelLimit = some maxAccel) (hlast : |c.lastOutput| ≤ maxSpeed)
    (hM : 0 < c.gains.maxIntegral) (hki : c.gains.ki ≠ 0) {now : ℤ}
    (hvalid : c.localizationValid now = true) (nowReset : ℤ) (setpoint measurement : K) :
    |(c.compute now nowReset setpoint measurement).1.integral| ≤ c.gains.maxIntegral ↔
      ¬ c.Overwinds maxSpeed maxAccel now setpoint measurement := by
  have hreach : 0 < maxAccel * c.stepDt now := mul_pos (accelLimit_pos ha) (c.stepDt_pos now)
  rw [compute_integral hm ha hlast hki hvalid]
  refine abs_corrected_le_iff hki (abs_accumulated_le hM _ _) (le_max_right _ _)
    (le_max_right _ _) ?_
  rcases le_total (c.demand maxSpeed now setpoint measurement) c.lastOutput with hle | hle
  · exact .inl (max_eq_right (by linarith))
  · exact .inr (max_eq_right (by linarith))

/-! ## Runs -/

/-- A controller with limits and gains, whose last output is within the limit. -/
structure Ready (cfg : SystemConfig K) (gains : PidGains K) (c : SafetyPidController K) :
    Prop where
  config : c.config = some cfg
  gains : c.gains = gains
  lastOutput : |c.lastOutput| ≤ cfg.envelope.maxSpeedMps

/-- The call leaves the gains as they are. -/
def KeepsGains : Event K → Prop
  | .setGains _ => False
  | _ => True

/-- A `compute` leaves the integral within its bound. -/
def IntegralBounded (c : SafetyPidController K) : Event K → Prop
  | .compute now nowReset setpoint measurement =>
      |(c.compute now nowReset setpoint measurement).1.integral| ≤ c.gains.maxIntegral
  | _ => True

/-- A `compute` with a fresh localization does not overwind. -/
def WithinRoom (cfg : SystemConfig K) (c : SafetyPidController K) : Event K → Prop
  | .compute now _ setpoint measurement =>
      c.localizationValid now = true →
        ¬ c.Overwinds cfg.envelope.maxSpeedMps cfg.envelope.maxAccelMps2 now setpoint
          measurement
  | _ => True

theorem Ready.next {cfg : SystemConfig K} {gains : PidGains K}
    (hm : c.speedLimit = some cfg.envelope.maxSpeedMps) (h : Ready cfg gains c)
    {e : Event K} (he : KeepsGains e) : Ready cfg gains (component.next c e) := by
  cases e with
  | setGains gains => exact he.elim
  | reset now =>
      refine ⟨h.config, h.gains, ?_⟩
      exact abs_zero.trans_le (speedLimit_pos hm).le
  | markLocalizationUpdate stamp => exact ⟨h.config, h.gains, h.lastOutput⟩
  | compute now nowReset setpoint measurement =>
      refine ⟨(compute_config nowReset setpoint measurement).trans h.config,
        (compute_gains nowReset setpoint measurement).trans h.gains, ?_⟩
      rw [component, compute_lastOutput]
      exact compute_abs_le hm now nowReset setpoint measurement

theorem Ready.integralBounded_iff {cfg : SystemConfig K} {gains : PidGains K}
    (hM : 0 < gains.maxIntegral) (hki : gains.ki ≠ 0)
    (hm : c.speedLimit = some cfg.envelope.maxSpeedMps)
    (ha : c.accelLimit = some cfg.envelope.maxAccelMps2) (h : Ready cfg gains c)
    (e : Event K) : c.IntegralBounded e ↔ c.WithinRoom cfg e := by
  cases e with
  | compute now nowReset setpoint measurement =>
      cases hvalid : c.localizationValid now with
      | false =>
          have hzero : |(0 : K)| ≤ c.gains.maxIntegral := by
            rw [h.gains, abs_zero]
            exact hM.le
          simp only [IntegralBounded, WithinRoom, compute_of_stale nowReset setpoint
            measurement hvalid, hvalid]
          exact iff_of_true hzero nofun
      | true =>
          simp only [IntegralBounded, WithinRoom, hvalid, true_imp_iff]
          exact abs_compute_integral_le_iff hm ha h.lastOutput (h.gains ▸ hM) (h.gains ▸ hki)
            hvalid nowReset setpoint measurement
  | _ => exact Iff.rfl

theorem ready_start {cfg : SystemConfig K} {now : ℤ} (hok : (c.applyConfig cfg now).2 = .ok)
    (gains : PidGains K) :
    Ready cfg gains ((c.applyConfig cfg now).1.setGains gains) := by
  have hcfg : ({ c with config := some cfg } : SafetyPidController K).config = some cfg := rfl
  obtain ⟨hm, -⟩ := limits_of_applyConfig_ok hok hcfg
  rw [applyConfig_fst]
  exact ⟨rfl, rfl, abs_zero.trans_le (speedLimit_pos hm).le⟩

/-- For every accepted configuration, gains with a bound and an integral gain, and every run
with these gains: every `compute` leaves the integral within its bound if and only if none of
them overwinds. -/
theorem run_integral_bounded_iff (c : SafetyPidController K) (cfg : SystemConfig K)
    (now : ℤ) (gains : PidGains K) (es : List (Event K))
    (hok : (c.applyConfig cfg now).2 = .ok) (hM : 0 < gains.maxIntegral)
    (hki : gains.ki ≠ 0)
    (hes : component.Along (fun _ e => KeepsGains e)
      ((c.applyConfig cfg now).1.setGains gains) es) :
    component.Along IntegralBounded ((c.applyConfig cfg now).1.setGains gains) es ↔
      component.Along (WithinRoom cfg) ((c.applyConfig cfg now).1.setGains gains) es := by
  refine Component.Along.congr (fun s e he hs => ?_) (fun s e he hs => ?_)
    (ready_start hok gains) hes
  · exact hs.next (limits_of_applyConfig_ok hok hs.config).1 he
  · obtain ⟨hm, ha⟩ := limits_of_applyConfig_ok hok hs.config
    exact hs.integralBounded_iff hM hki hm ha e

/-- One call with the gains of the tests. -/
theorem run_integral_bounded_iff_rat :
    component.Along IntegralBounded
        (((create 0 0 : SafetyPidController ℚ).applyConfig makeConfig 0).1.setGains
          ⟨1, 1, 0, 5⟩) [.compute 0 0 100 0] ↔
      component.Along (WithinRoom makeConfig)
        (((create 0 0 : SafetyPidController ℚ).applyConfig makeConfig 0).1.setGains
          ⟨1, 1, 0, 5⟩) [.compute 0 0 100 0] :=
  run_integral_bounded_iff _ _ _ _ _ (by decide +kernel) (by norm_num) one_ne_zero
    ⟨trivial, trivial⟩

/-- With a proportional gain of 2, an integral gain of 0.01 and the default bound of 100, the
first call with an error of 1 leaves the integral below -142. -/
theorem integral_not_always_bounded :
    ¬ ∀ (c : SafetyPidController ℚ) (cfg : SystemConfig ℚ) (now : ℤ) (gains : PidGains ℚ)
      (es : List (Event ℚ)), (c.applyConfig cfg now).2 = .ok → 0 < gains.maxIntegral →
      gains.ki ≠ 0 →
      component.Along (fun _ e => KeepsGains e)
        ((c.applyConfig cfg now).1.setGains gains) es →
      component.Along IntegralBounded ((c.applyConfig cfg now).1.setGains gains) es := by
  intro h
  have hbound := (h (create 0 0) makeConfig 0 { kp := 2, ki := 0.01 } [.compute 0 0 1 0]
    (by decide +kernel) (by norm_num) (by norm_num) ⟨trivial, trivial⟩).1
  have hbelow : ((((create 0 0 : SafetyPidController ℚ).applyConfig makeConfig 0).1.setGains
      { kp := 2, ki := 0.01 }).compute 0 0 1 0).1.integral < -142 := by
    decide +kernel
  have hlow : -(100.0 : ℚ) ≤ _ := (abs_le.1 hbound).1
  exact absurd (hlow.trans_lt hbelow) (by norm_num)

end SafetyPidController

end SafetyCore
