import Mathlib.Tactic.Linarith
import Mathlib.Tactic.NormNum
import SafetyCore.Arithmetic.Double.Unbounded
import SafetyCore.Control.SafetyPid

/-!
# Bounded outputs of the controller

The clamps of the controller bound every number, but they let a NaN pass, and the
integral and the previous error carry what reaches them to later calls. A NaN arises from
a NaN, from two infinities of different signs and from an infinity times zero.
`Determinate` rules these out for one call, by its inputs and the state before it.
-/

namespace SafetyCore

open Arithmetic Transition Double

namespace SafetyPidController

/-! ## The terms of a call -/

section Terms

variable {α : Type*} [Zero α] [Add α] [Sub α] [Mul α] [Div α] [Neg α] [OfScientific α]
  [IntCast α] [LT α] [DecidableLT α] [LE α] [DecidableLE α] [DecidableEq α]
  (c : SafetyPidController α)

/-- The time step of a call. -/
def stepDt (now : ℤ) : α :=
  let elapsed : α := seconds (now - c.lastUpdate)
  if !c.firstUpdate && 1e-6 < elapsed then elapsed else c.configuredDt

/-- The integral with the new error. -/
def accumulated (error dt : α) : α :=
  let integral := c.integral + error * dt
  if 0 < c.gains.maxIntegral then
    stdClamp integral (-c.gains.maxIntegral) c.gains.maxIntegral
  else integral

def derivative (error dt : α) : α :=
  if !c.firstUpdate && 0 < dt then (error - c.prevError) / dt else 0

/-- The output before it is limited. -/
def pidSum (error dt : α) : α :=
  c.gains.kp * error + c.gains.ki * c.accumulated error dt +
    c.gains.kd * c.derivative error dt

/-- A call whose localization is valid, by its terms. -/
theorem compute_of_valid {now : ℤ} (nowReset : ℤ) (setpoint measurement : α)
    (h : c.localizationValid now = true) :
    c.compute now nowReset setpoint measurement =
      let dt := c.stepDt now
      let error := setpoint - measurement
      let preAccelOutput := c.clampSpeed (c.pidSum error dt)
      let output := c.clampAccel preAccelOutput dt
      ({ c with
          integral :=
            if 1e-9 < stdAbs (preAccelOutput - output) ∧ c.gains.ki ≠ 0 then
              c.accumulated error dt - (preAccelOutput - output) / c.gains.ki
            else c.accumulated error dt
          prevError := error
          lastOutput := output
          lastUpdate := now
          firstUpdate := false }, output) := by
  unfold compute
  rw [h]
  rfl

end Terms

section ExactDouble

variable {K : Type*} [Field K] [LinearOrder K]

/-- The gains that multiply are finite. -/
structure GainsFinite (gains : PidGains (ExactDouble K)) : Prop where
  kp : isFinite gains.kp = true
  ki : isFinite gains.ki = true
  kd : isFinite gains.kd = true

instance (gains : PidGains (ExactDouble K)) : Decidable (GainsFinite gains) :=
  decidable_of_iff
    ((isFinite gains.kp = true ∧ isFinite gains.ki = true) ∧ isFinite gains.kd = true)
    ⟨fun h => ⟨h.1.1, h.1.2, h.2⟩, fun h => ⟨⟨h.kp, h.ki⟩, h.kd⟩⟩

/-- Nothing in the call is indeterminate. A finite error is harmless unless an infinite
previous error is multiplied by zero; an infinite one needs a proportional term, a finite
limit of the integral, and a derivative that has the sign of the proportional term. -/
def Determinate (c : SafetyPidController (ExactDouble K)) (maxSpeed error : ExactDouble K) :
    Prop :=
  GainsFinite c.gains ∧
    if isFinite error = true then
      c.firstUpdate = true ∨ isFinite c.prevError = true ∨
        (c.gains.kd ≠ 0 ∧ isFinite maxSpeed = true)
    else
      error ≠ .nan ∧ c.gains.kp ≠ 0 ∧ isFinite maxSpeed = true ∧
        0 < c.gains.maxIntegral ∧ isFinite c.gains.maxIntegral = true ∧
        (c.firstUpdate = true ∨ c.prevError ≠ error ∧
          (0 < c.gains.kp ∧ 0 < c.gains.kd ∨ c.gains.kp < 0 ∧ c.gains.kd < 0))

instance (c : SafetyPidController (ExactDouble K)) (maxSpeed error : ExactDouble K) :
    Decidable (c.Determinate maxSpeed error) := by
  unfold Determinate
  infer_instance

/-- What the calls keep of a controller with the configuration `cfg`. -/
structure Sound (cfg : SystemConfig (ExactDouble K))
    (c : SafetyPidController (ExactDouble K)) : Prop where
  config : c.config = some cfg
  integral : isFinite c.integral = true
  prevError : c.prevError ≠ .nan
  lastOutput : isFinite c.lastOutput = true

variable {c : SafetyPidController (ExactDouble K)} {cfg : SystemConfig (ExactDouble K)}

/-! ## NaN -/

theorem clampSpeed_nan (c : SafetyPidController (ExactDouble K)) :
    c.clampSpeed .nan = .nan := by
  unfold clampSpeed
  cases c.config with
  | none => rfl
  | some cfg =>
      dsimp only
      split
      · rfl
      · exact stdClamp_nan _ _

theorem clampAccel_nan (c : SafetyPidController (ExactDouble K)) (dt : ExactDouble K) :
    c.clampAccel .nan dt = .nan := by
  unfold clampAccel
  cases c.config with
  | none => rfl
  | some cfg =>
      dsimp only
      split
      · rfl
      · rw [nan_sub, if_neg (not_lt_nan _), if_neg (not_nan_lt _), clampSpeed_nan]

/-! ## The terms -/

theorem Determinate.error_ne_nan {maxSpeed error : ExactDouble K}
    (h : c.Determinate maxSpeed error) : error ≠ .nan := by
  obtain ⟨-, h⟩ := h
  split at h
  · exact ne_nan_of_isFinite ‹_›
  · exact h.1

theorem derivative_of_first (h : c.firstUpdate = true) (error dt : ExactDouble K) :
    c.derivative error dt = 0 := by
  simp [derivative, h]

theorem derivative_of_not_first (h : c.firstUpdate ≠ true) (error : ExactDouble K) {τ : K}
    (hτ : 0 < τ) : c.derivative error (exact τ) = (error - c.prevError) / exact τ := by
  simp [derivative, h, zero_lt_exact.2 hτ]

/-- With an infinite error the derivative is infinite like the error. -/
theorem derivative_of_infinity {b : Bool} {τ : K} (hτ : 0 < τ)
    (hfirst : c.firstUpdate ≠ true) (hprev : c.prevError ≠ .nan)
    (hne : c.prevError ≠ infinity b) :
    c.derivative (infinity b) (exact τ) = infinity b := by
  have hsub : infinity b - c.prevError = infinity b := by
    by_cases hfinite : isFinite c.prevError = true
    · obtain ⟨e, he⟩ := exists_exact hfinite
      rw [he, infinity_sub_exact]
    · obtain ⟨a, ha⟩ := exists_infinity hprev hfinite
      rw [ha, infinity_sub_infinity]
      rintro rfl
      exact hne ha
  rw [derivative_of_not_first hfirst _ hτ, hsub, infinity_div_of_pos b hτ]

theorem derivative_after_infinity {error : ExactDouble K} {b : Bool} {τ : K} (hτ : 0 < τ)
    (hfirst : c.firstUpdate ≠ true) (herror : isFinite error = true)
    (hprev : c.prevError = infinity b) :
    c.derivative error (exact τ) = infinity !b := by
  obtain ⟨e, rfl⟩ := exists_exact herror
  rw [derivative_of_not_first hfirst _ hτ, hprev, exact_sub_infinity,
    infinity_div_of_pos _ hτ]

variable [IsStrictOrderedRing K]

theorem seconds_eq_exact (d : ℤ) : (seconds d : ExactDouble K) = exact ((d : K) / 1e9) := by
  have hne : (1e9 : K) ≠ 0 := by norm_num
  rw [seconds, intCast_eq_exact, ofScientific_eq_exact, exact_div _ hne]

theorem exists_configuredDt (c : SafetyPidController (ExactDouble K)) :
    ∃ τ : K, 0 < τ ∧ c.configuredDt = exact τ := by
  have hdefault : ∃ τ : K, 0 < τ ∧ (kDefaultDtSeconds : ExactDouble K) = exact τ :=
    ⟨0.1, by norm_num, ofScientific_eq_exact _ _ _⟩
  unfold configuredDt
  cases c.config with
  | none => exact hdefault
  | some cfg =>
      simp only [seconds_eq_exact, zero_eq_exact, exact_lt_exact]
      split
      · exact ⟨_, ‹_›, rfl⟩
      · exact hdefault

/-- The time step is a positive number. -/
theorem exists_stepDt (c : SafetyPidController (ExactDouble K)) (now : ℤ) :
    ∃ τ : K, 0 < τ ∧ c.stepDt now = exact τ := by
  have hmin : (0 : K) < 1e-6 := by norm_num
  simp only [stepDt, seconds_eq_exact, ofScientific_eq_exact, exact_lt_exact,
    Bool.and_eq_true, decide_eq_true_eq]
  split
  · exact ⟨_, hmin.trans (And.right ‹_›), rfl⟩
  · exact c.exists_configuredDt

/-- The integral stays finite with a finite error, and with an infinite one if it has a
finite limit. -/
theorem isFinite_accumulated (hintegral : isFinite c.integral = true)
    {error : ExactDouble K} (hnan : error ≠ .nan)
    (herror : isFinite error = true ∨
      0 < c.gains.maxIntegral ∧ isFinite c.gains.maxIntegral = true)
    {τ : K} (hτ : 0 < τ) : isFinite (c.accumulated error (exact τ)) = true := by
  unfold accumulated
  dsimp only
  by_cases hfinite : isFinite error = true
  · have hsum : isFinite (c.integral + error * exact τ) = true :=
      isFinite_add hintegral (isFinite_mul hfinite rfl)
    split
    · exact isFinite_stdClamp_neg_of_isFinite hsum (le_of_lt ‹_›)
    · exact hsum
  · obtain ⟨hpos, hlimit⟩ := herror.resolve_left hfinite
    obtain ⟨b, rfl⟩ := exists_infinity hnan hfinite
    obtain ⟨i, hi⟩ := exists_exact hintegral
    rw [if_pos hpos, hi, infinity_mul_exact b hτ.ne', exact_add_infinity]
    exact isFinite_stdClamp_neg nofun (le_of_lt hpos) hlimit

theorem Determinate.isFinite_accumulated {maxSpeed error : ExactDouble K}
    (h : c.Determinate maxSpeed error) (hintegral : isFinite c.integral = true) {τ : K}
    (hτ : 0 < τ) : isFinite (c.accumulated error (exact τ)) = true := by
  refine SafetyPidController.isFinite_accumulated hintegral h.error_ne_nan ?_ hτ
  obtain ⟨-, h⟩ := h
  split at h
  · exact .inl ‹_›
  · exact .inr ⟨h.2.2.2.1, h.2.2.2.2.1⟩

/-- With a finite error it is finite, unless it follows an infinite error. -/
theorem isFinite_derivative {error : ExactDouble K} {τ : K} (hτ : 0 < τ)
    (herror : isFinite error = true)
    (hprev : c.firstUpdate = true ∨ isFinite c.prevError = true) :
    isFinite (c.derivative error (exact τ)) = true := by
  by_cases hfirst : c.firstUpdate = true
  · rw [derivative_of_first hfirst]
    exact isFinite_zero
  · rw [derivative_of_not_first hfirst error hτ]
    exact isFinite_div (isFinite_sub herror (hprev.resolve_left hfirst)) rfl
      (exact_ne_zero.2 hτ.ne')

/-- The sum is a number, and a finite one unless the maximal speed is finite. -/
theorem pidSum_ne_nan (h : Sound cfg c) {error : ExactDouble K} {τ : K} (hτ : 0 < τ)
    (hdet : c.Determinate cfg.envelope.maxSpeedMps error) :
    c.pidSum error (exact τ) ≠ .nan ∧
      (isFinite (c.pidSum error (exact τ)) = true ∨
        isFinite cfg.envelope.maxSpeedMps = true) := by
  have hintegral : isFinite (c.gains.ki * c.accumulated error (exact τ)) = true :=
    isFinite_mul hdet.1.ki (hdet.isFinite_accumulated h.integral hτ)
  obtain ⟨⟨hkp, -, hkd⟩, hdet⟩ := hdet
  obtain ⟨p, hp⟩ := exists_exact hkp
  obtain ⟨i, hi⟩ := exists_exact hintegral
  obtain ⟨d, hd⟩ := exists_exact hkd
  unfold pidSum
  split at hdet
  next herror =>
    have hrest : isFinite (c.gains.kp * error +
        c.gains.ki * c.accumulated error (exact τ)) = true :=
      isFinite_add (isFinite_mul hkp herror) hintegral
    by_cases hprev : c.firstUpdate = true ∨ isFinite c.prevError = true
    · have hsum := isFinite_add hrest (isFinite_mul hkd (isFinite_derivative hτ herror hprev))
      exact ⟨ne_nan_of_isFinite hsum, .inl hsum⟩
    · obtain ⟨hne, hmax⟩ := (or_assoc.2 hdet).resolve_left hprev
      obtain ⟨hfirst, hprev⟩ := not_or.1 hprev
      obtain ⟨b, hb⟩ := exists_infinity h.prevError hprev
      obtain ⟨r, hr⟩ := exists_exact hrest
      rw [hd, exact_ne_zero] at hne
      rw [hr, derivative_after_infinity hτ hfirst herror hb, hd, exact_mul_infinity hne,
        exact_add_infinity]
      exact ⟨nofun, .inr hmax⟩
  next herror =>
    obtain ⟨hnan, hp0, hmax, -, -, hprev⟩ := hdet
    obtain ⟨b, rfl⟩ := exists_infinity hnan herror
    refine ⟨?_, .inr hmax⟩
    rw [hp, exact_ne_zero] at hp0
    rw [hi, hp, hd, exact_mul_infinity hp0, infinity_add_exact]
    by_cases hfirst : c.firstUpdate = true
    · rw [derivative_of_first hfirst, zero_eq_exact, exact_mul, infinity_add_exact]
      exact nofun
    · obtain hfirst' | ⟨hne, hsign⟩ := hprev
      · exact absurd hfirst' hfirst
      · rw [derivative_of_infinity hτ hfirst h.prevError hne]
        -- The derivative pushes the same way as the proportional term.
        have hd0 : d ≠ 0 ∧ decide (d < 0) = decide (p < 0) := by
          rw [hp, hd, zero_eq_exact] at hsign
          simp only [exact_lt_exact] at hsign
          obtain ⟨hp, hd⟩ | ⟨hp, hd⟩ := hsign
          · exact ⟨hd.ne', by rw [decide_eq_false hp.not_gt, decide_eq_false hd.not_gt]⟩
          · exact ⟨hd.ne, by rw [decide_eq_true hp, decide_eq_true hd]⟩
        rw [exact_mul_infinity hd0.1, hd0.2, infinity_add_self]
        exact nofun

/-- A call that is not determinate sums up to a NaN, if the limits of the speed and of the
integral are finite. -/
theorem pidSum_eq_nan (h : Sound cfg c) (hgains : GainsFinite c.gains)
    (hlimit : 0 < c.gains.maxIntegral ∧ isFinite c.gains.maxIntegral = true)
    (hmax : isFinite cfg.envelope.maxSpeedMps = true) {error : ExactDouble K} {τ : K}
    (hτ : 0 < τ) (hdet : ¬ c.Determinate cfg.envelope.maxSpeedMps error) :
    c.pidSum error (exact τ) = .nan := by
  obtain ⟨p, hp⟩ := exists_exact hgains.kp
  obtain ⟨d, hd⟩ := exists_exact hgains.kd
  have hdet : ¬ ite _ _ _ := fun hcond => hdet ⟨hgains, hcond⟩
  unfold pidSum
  split at hdet
  next herror =>
    -- An infinite previous error, multiplied by zero.
    obtain ⟨hfirst, hdet⟩ := not_or.1 hdet
    obtain ⟨hprev, hkd⟩ := not_or.1 hdet
    have hkd : c.gains.kd = 0 := by
      by_contra hne
      exact hkd ⟨hne, hmax⟩
    obtain ⟨b, hb⟩ := exists_infinity h.prevError hprev
    rw [derivative_after_infinity hτ hfirst herror hb, hkd, zero_mul_infinity, add_nan]
  next herror =>
    by_cases hnan : error = .nan
    · rw [hnan, mul_nan, nan_add, nan_add]
    obtain ⟨b, rfl⟩ := exists_infinity hnan herror
    by_cases hp0 : c.gains.kp = 0
    · rw [hp0, zero_mul_infinity, nan_add, nan_add]
    obtain ⟨hfirst, hsign⟩ := not_or.1
      fun hprev => hdet ⟨hnan, hp0, hmax, hlimit.1, hlimit.2, hprev⟩
    by_cases hprev : c.prevError = infinity b
    · have hderivative : c.derivative (infinity b) (exact τ) = .nan := by
        rw [derivative_of_not_first hfirst _ hτ, hprev, infinity_sub_self, nan_div]
      rw [hderivative, mul_nan, add_nan]
    rw [derivative_of_infinity hτ hfirst h.prevError hprev]
    by_cases hd0 : c.gains.kd = 0
    · rw [hd0, zero_mul_infinity, add_nan]
    obtain ⟨i, hi⟩ := exists_exact (isFinite_mul hgains.ki
      (isFinite_accumulated h.integral hnan (.inr hlimit) hτ))
    rw [← ne_eq, hp, exact_ne_zero] at hp0
    rw [← ne_eq, hd, exact_ne_zero] at hd0
    -- The derivative pushes against the proportional term.
    have hopposite : (decide (p < 0) ^^ b) ≠ (decide (d < 0) ^^ b) := by
      intro heq
      have hiff : p < 0 ↔ d < 0 := decide_eq_decide.1 (Bool.xor_left_inj.1 heq)
      refine hsign ⟨hprev, ?_⟩
      rw [hp, hd, zero_eq_exact]
      simp only [exact_lt_exact]
      rcases lt_or_gt_of_ne hp0 with hneg | hpos
      · exact .inr ⟨hneg, hiff.1 hneg⟩
      · exact .inl ⟨hpos, hd0.symm.lt_of_le (not_lt.1 fun h => hpos.not_gt (hiff.2 h))⟩
    rw [hi, hp, hd, exact_mul_infinity hp0, exact_mul_infinity hd0, infinity_add_exact,
      infinity_add_infinity hopposite]

/-! ## The clamps -/

/-- The limit of the speed bounds a number, and makes it finite where either is. -/
theorem clampSpeed_bounded (hcfg : c.config = some cfg)
    (hmax : 0 < cfg.envelope.maxSpeedMps) {v : ExactDouble K} (hv : v ≠ .nan)
    (hfinite : isFinite v = true ∨ isFinite cfg.envelope.maxSpeedMps = true) :
    FiniteWithin cfg.envelope.maxSpeedMps (c.clampSpeed v) := by
  obtain ⟨hzero, hmaxNan⟩ := ne_nan_of_le (le_of_lt hmax)
  have hclamp : c.clampSpeed v =
      stdClamp v (-cfg.envelope.maxSpeedMps) cfg.envelope.maxSpeedMps := by
    unfold clampSpeed
    rw [hcfg]
    exact if_neg ((not_le hmaxNan hzero).2 hmax)
  rw [hclamp]
  exact (stdClamp_finiteWithin_iff (le_of_lt hmax) (le_refl hmaxNan)).2 ⟨hv, hfinite⟩

/-- So does the limit of the acceleration, after a finite output. -/
theorem clampAccel_bounded (hcfg : c.config = some cfg)
    (hmax : 0 < cfg.envelope.maxSpeedMps) (hlast : isFinite c.lastOutput = true)
    {desired : ExactDouble K} (hdesired : FiniteWithin cfg.envelope.maxSpeedMps desired)
    {τ : K} (hτ : 0 < τ) :
    FiniteWithin cfg.envelope.maxSpeedMps (c.clampAccel desired (exact τ)) := by
  obtain ⟨x, hx⟩ := exists_exact hdesired.1
  obtain ⟨l, hl⟩ := exists_exact hlast
  have hspeed {v : K} := clampSpeed_bounded hcfg hmax (v := exact v) (exact_ne_nan v)
    (.inl rfl)
  unfold clampAccel
  rw [hcfg]
  dsimp only
  split
  · exact hdesired
  next hlimit =>
    obtain ⟨haccel, -⟩ := not_or.1 hlimit
    rw [hx, hl, exact_sub]
    -- A limit that is no finite number changes nothing.
    cases hA : cfg.envelope.maxAccelMps2 with
    | finite a ha ha' =>
        have hdelta : (finite a ha ha' : ExactDouble K) * exact τ = exact (a * τ) :=
          exact_mul a τ
        rw [hdelta, exact_neg, exact_add, exact_sub]
        split
        · exact hspeed
        · split <;> exact hspeed
    | infinity b =>
        cases b with
        | false =>
            rw [infinity_mul_exact false hτ.ne', decide_eq_false hτ.not_gt,
              if_neg nofun, if_neg nofun]
            exact hspeed
        | true => exact absurd (hA ▸ rfl) haccel
    | nan =>
        have hdelta : (nan : ExactDouble K) * exact τ = nan := rfl
        rw [hdelta, neg_nan, if_neg (not_nan_lt _), if_neg (not_lt_nan _)]
        exact hspeed

/-! ## One call -/

/-- `compute`, on a call that is determinate unless the localization is stale. -/
theorem compute_sound (hmax : 0 < cfg.envelope.maxSpeedMps) (h : Sound cfg c)
    (now nowReset : ℤ) (setpoint measurement : ExactDouble K)
    (hdet : c.localizationValid now = true →
      c.Determinate cfg.envelope.maxSpeedMps (setpoint - measurement)) :
    Sound cfg (c.compute now nowReset setpoint measurement).1 ∧
      FiniteWithin cfg.envelope.maxSpeedMps
        (c.compute now nowReset setpoint measurement).2 := by
  cases hvalid : c.localizationValid now with
  | false =>
      rw [compute_of_stale nowReset setpoint measurement hvalid]
      exact ⟨⟨h.config, isFinite_zero, zero_ne_nan, isFinite_zero⟩,
        finiteWithin_zero (le_of_lt hmax)⟩
  | true =>
      have hdet := hdet hvalid
      obtain ⟨τ, hτ, hdt⟩ := c.exists_stepDt now
      obtain ⟨hsum, hfinite⟩ := pidSum_ne_nan h hτ hdet
      have hspeed := clampSpeed_bounded h.config hmax hsum hfinite
      have haccel := clampAccel_bounded h.config hmax h.lastOutput hspeed hτ
      have hintegral := hdet.isFinite_accumulated h.integral hτ
      rw [compute_of_valid c nowReset setpoint measurement hvalid, hdt]
      dsimp only
      refine ⟨⟨h.config, ?_, ?_, haccel.1⟩, haccel⟩
      · dsimp only
        split
        next hwindup =>
          exact isFinite_sub hintegral
            (isFinite_div (isFinite_sub hspeed.1 haccel.1) hdet.1.ki hwindup.2)
        next => exact hintegral
      · exact hdet.error_ne_nan

/-- The condition of `compute_sound` is exact, if the gains and the limits of the speed and
of the integral are finite. -/
theorem compute_within_iff (hmax : 0 < cfg.envelope.maxSpeedMps)
    (hfinite : isFinite cfg.envelope.maxSpeedMps = true) (h : Sound cfg c)
    (hgains : GainsFinite c.gains)
    (hlimit : 0 < c.gains.maxIntegral ∧ isFinite c.gains.maxIntegral = true)
    {now : ℤ} (hvalid : c.localizationValid now = true) (nowReset : ℤ)
    (setpoint measurement : ExactDouble K) :
    FiniteWithin cfg.envelope.maxSpeedMps
        (c.compute now nowReset setpoint measurement).2 ↔
      c.Determinate cfg.envelope.maxSpeedMps (setpoint - measurement) := by
  refine ⟨fun hwithin => ?_, fun hdet =>
    (compute_sound hmax h now nowReset setpoint measurement fun _ => hdet).2⟩
  by_contra hdet
  obtain ⟨τ, hτ, hdt⟩ := c.exists_stepDt now
  have hnan : (c.compute now nowReset setpoint measurement).2 = .nan := by
    rw [compute_of_valid c nowReset setpoint measurement hvalid, hdt]
    dsimp only
    rw [pidSum_eq_nan h hgains hlimit hfinite hτ hdet, clampSpeed_nan, clampAccel_nan]
  rw [hnan] at hwithin
  cases hwithin.1

theorem computeFeedforward_sound (hmax : 0 < cfg.envelope.maxSpeedMps) (h : Sound cfg c)
    (now nowReset : ℤ) (setpoint measurement ffVelocity ffAcceleration : ExactDouble K)
    (hdet : c.localizationValid now = true →
      c.Determinate cfg.envelope.maxSpeedMps (setpoint - measurement)) :
    Sound cfg (c.computeFeedforward now nowReset setpoint measurement ffVelocity
        ffAcceleration).1 ∧
      FiniteWithin cfg.envelope.maxSpeedMps (c.computeFeedforward now nowReset setpoint
        measurement ffVelocity ffAcceleration).2 := by
  obtain ⟨hsound, hwithin⟩ := compute_sound hmax h now nowReset setpoint measurement hdet
  unfold computeFeedforward
  generalize c.compute now nowReset setpoint measurement = r at hsound hwithin ⊢
  obtain ⟨c', pidOutput⟩ := r
  dsimp only
  split
  next => exact ⟨hsound, hwithin⟩
  next hff =>
    simp only [Bool.or_eq_true, Bool.not_eq_true', not_or, Bool.not_eq_false] at hff
    obtain ⟨τ, -, hdt⟩ := c'.exists_configuredDt
    have hsum : isFinite (pidOutput + ffVelocity + ffAcceleration * exact τ) = true :=
      isFinite_add (isFinite_add hwithin.1 hff.1) (isFinite_mul hff.2 rfl)
    have hspeed := clampSpeed_bounded hsound.config hmax (ne_nan_of_isFinite hsum)
      (.inl hsum)
    rw [hdt]
    exact ⟨⟨hsound.config, hsound.integral, hsound.prevError, hspeed.1⟩, hspeed⟩

/-! ## A run -/

/-- The call is determinate, where it computes with its error at all. -/
def DeterminateCall (maxSpeed : ExactDouble K) (c : SafetyPidController (ExactDouble K)) :
    Call (ExactDouble K) → Prop
  | .plain (.compute now _ setpoint measurement)
  | .computeFeedforward now _ setpoint measurement _ _ =>
      c.localizationValid now = true → c.Determinate maxSpeed (setpoint - measurement)
  | _ => True

instance (maxSpeed : ExactDouble K) (c : SafetyPidController (ExactDouble K)) :
    ∀ e, Decidable (DeterminateCall maxSpeed c e)
  | .plain (.compute now _ setpoint measurement)
  | .computeFeedforward now _ setpoint measurement _ _ =>
      inferInstanceAs (Decidable (c.localizationValid now = true →
        c.Determinate maxSpeed (setpoint - measurement)))
  | .plain (.setGains _) | .plain (.reset _) | .plain (.markLocalizationUpdate _) =>
      inferInstanceAs (Decidable True)

theorem call_sound (hmax : 0 < cfg.envelope.maxSpeedMps) (h : Sound cfg c)
    (e : Call (ExactDouble K)) (hdet : DeterminateCall cfg.envelope.maxSpeedMps c e) :
    Sound cfg (callComponent.next c e) ∧
      ∀ v, callComponent.output c e = some v → FiniteWithin cfg.envelope.maxSpeedMps v := by
  cases e with
  | plain e =>
      cases e with
      | setGains gains => exact ⟨⟨h.config, h.integral, h.prevError, h.lastOutput⟩, nofun⟩
      | reset now =>
          exact ⟨⟨h.config, isFinite_zero, zero_ne_nan, isFinite_zero⟩, nofun⟩
      | markLocalizationUpdate stamp =>
          exact ⟨⟨h.config, h.integral, h.prevError, h.lastOutput⟩, nofun⟩
      | compute now nowReset setpoint measurement =>
          obtain ⟨hsound, hwithin⟩ :=
            compute_sound hmax h now nowReset setpoint measurement hdet
          refine ⟨hsound, ?_⟩
          rintro v ⟨⟩
          exact hwithin
  | computeFeedforward now nowReset setpoint measurement ffVelocity ffAcceleration =>
      obtain ⟨hsound, hwithin⟩ := computeFeedforward_sound hmax h now nowReset setpoint
        measurement ffVelocity ffAcceleration hdet
      refine ⟨hsound, ?_⟩
      rintro v ⟨⟩
      exact hwithin

/-- In every run of an accepted configuration with a numeric maximal speed, if every call
is determinate then every value that `compute` returns is finite and no more than the
maximal speed. -/
theorem run_outputs_bounded (c : SafetyPidController (ExactDouble K))
    (cfg : SystemConfig (ExactDouble K)) (now : ℤ)
    (haccepted : (c.applyConfig cfg now).2 = .ok) (hnan : cfg.envelope.maxSpeedMps ≠ .nan)
    (es : List (Call (ExactDouble K)))
    (hes : callComponent.Along (DeterminateCall cfg.envelope.maxSpeedMps)
      (c.applyConfig cfg now).1 es) :
    ∀ v, some v ∈ callComponent.outputs (c.applyConfig cfg now).1 es →
      isFinite v = true ∧ stdAbs v ≤ cfg.envelope.maxSpeedMps := by
  unfold applyConfig at *
  dsimp only at *
  split at haccepted
  next => cases haccepted
  next hlimits =>
    rw [if_neg hlimits] at hes ⊢
    have hmax := (not_le hnan zero_ne_nan).1 (not_or.1 hlimits).1
    have hsound : Sound cfg ({ c with config := some cfg }.reset now) :=
      ⟨rfl, isFinite_zero, zero_ne_nan, isFinite_zero⟩
    have hkeeps : ∀ c e, DeterminateCall cfg.envelope.maxSpeedMps c e → Sound cfg c →
        Sound cfg (callComponent.next c e) :=
      fun _ e hdet h => (call_sound hmax h e hdet).1
    have hwithin : ∀ c e, DeterminateCall cfg.envelope.maxSpeedMps c e → Sound cfg c →
        ∀ v, callComponent.output c e = some v → FiniteWithin cfg.envelope.maxSpeedMps v :=
      fun _ e hdet h => (call_sound hmax h e hdet).2
    exact Component.Along.outputs hkeeps hwithin hsound hes

/-- What an ordinary call returns after an infinite set point. -/
theorem run_outputs_bounded_infinity :
    isFinite (0.07425 : ExactDouble ℚ) = true ∧
      stdAbs 0.07425 ≤ (makeConfig : SystemConfig (ExactDouble ℚ)).envelope.maxSpeedMps :=
  run_outputs_bounded (create 0 0) makeConfig 0 (by decide +kernel) (by decide +kernel)
    [.plain (.setGains { kp := 1.0, ki := 1.0, kd := 1.0 }),
      .plain (.compute 1000000 0 (infinity false) 0),
      .computeFeedforward 2000000 0 1.0 0 (infinity true) 1.0]
    (by decide +kernel) 0.07425 (by decide +kernel)

/-- A set point that is not a number, at the first call. -/
theorem outputs_not_always_bounded :
    ¬ ∀ (c : SafetyPidController (ExactDouble ℚ)) (cfg : SystemConfig (ExactDouble ℚ))
      (now : ℤ), (c.applyConfig cfg now).2 = .ok → ∀ es : List (Call (ExactDouble ℚ)),
      ∀ v, some v ∈ callComponent.outputs (c.applyConfig cfg now).1 es →
        isFinite v = true ∧ stdAbs v ≤ cfg.envelope.maxSpeedMps := by
  intro h
  have hv := h (create 0 0) makeConfig 0 (by decide +kernel)
    [.plain (.compute 1000000 0 .nan 0)] .nan (by decide +kernel)
  cases hv.1

end ExactDouble

end SafetyPidController

end SafetyCore
