import Mathlib.Tactic.Linarith
import Mathlib.Tactic.NormNum
import SafetyCore.Arithmetic.Double.Unbounded
import SafetyCore.Filters.BoundedEkf

/-!
# The bounds of the filter

Every operation ends with the clamps, and the parameters in force have passed the
checks of `set_params`, so the estimate is always within its bounds; infinities and NaN
in the inputs are rejected before they reach it. Finite results are exact.
-/

namespace SafetyCore

open Arithmetic Transition Double

namespace BoundedEkfFilter

variable {K : Type*} [Field K] [LinearOrder K]

/-- The entries of the covariance are within the bounds of the variances. -/
structure CovarianceBounded (params : BoundedEkfParams (ExactDouble K))
    (p : Covariance (ExactDouble K)) : Prop where
  p00_min : params.minVariance ≤ p.p00
  p00_max : p.p00 ≤ params.maxVariance
  p11_min : params.minVariance ≤ p.p11
  p11_max : p.p11 ≤ params.maxVariance
  p01 : stdAbs p.p01 ≤ params.maxVariance
  p10 : stdAbs p.p10 ≤ params.maxVariance

/-- The estimate is within the bounds of the parameters. -/
structure Bounded (f : BoundedEkfFilter (ExactDouble K)) : Prop where
  position : stdAbs f.x ≤ f.params.maxAbsPosition
  velocity : stdAbs f.v ≤ f.params.maxAbsVelocity
  covariance : CovarianceBounded f.params f.p

/-! ## Valid parameters -/

/-- What the checks of `set_params` leave of the parameters that the clamps use. -/
structure ClampParams (params : BoundedEkfParams (ExactDouble K)) : Prop where
  minVariance_finite : isFinite params.minVariance = true
  maxVariance_finite : isFinite params.maxVariance = true
  measurementNoise_finite : isFinite params.measurementNoise = true
  minVariance_nonneg : 0 ≤ params.minVariance
  minVariance_le : params.minVariance ≤ params.maxVariance
  maxAbsPosition_nonneg : 0 ≤ params.maxAbsPosition
  maxAbsPosition_finite : isFinite params.maxAbsPosition = true
  maxAbsVelocity_nonneg : 0 ≤ params.maxAbsVelocity
  maxAbsVelocity_finite : isFinite params.maxAbsVelocity = true

theorem clampParams_of_valid {params : BoundedEkfParams (ExactDouble K)}
    (h : validParams params = true) : ClampParams params := by
  unfold validParams at h
  simp only [Bool.and_eq_true, Bool.not_eq_true', Bool.or_eq_false_iff,
    decide_eq_false_iff_not] at h
  obtain ⟨⟨⟨⟨⟨⟨⟨⟨-, -⟩, hnoise⟩, hpos⟩, hvel⟩, hmin⟩, hmax⟩, -⟩,
    ⟨⟨⟨hminNonneg, hle⟩, hposNonneg⟩, hvelNonneg⟩, -⟩ := h
  exact
    { minVariance_finite := hmin
      maxVariance_finite := hmax
      measurementNoise_finite := hnoise
      minVariance_nonneg := (Double.not_lt (ne_nan_of_isFinite hmin) zero_ne_nan).1 hminNonneg
      minVariance_le :=
        (Double.not_lt (ne_nan_of_isFinite hmax) (ne_nan_of_isFinite hmin)).1 hle
      maxAbsPosition_nonneg := (Double.not_lt (ne_nan_of_isFinite hpos) zero_ne_nan).1 hposNonneg
      maxAbsPosition_finite := hpos
      maxAbsVelocity_nonneg := (Double.not_lt (ne_nan_of_isFinite hvel) zero_ne_nan).1 hvelNonneg
      maxAbsVelocity_finite := hvel }

theorem minV_eq {params : BoundedEkfParams (ExactDouble K)}
    (h : ClampParams params) : minV params = params.minVariance := by
  have hnot : ¬ params.minVariance < 0 :=
    (Double.not_lt (ne_nan_of_isFinite h.minVariance_finite) zero_ne_nan).2
      h.minVariance_nonneg
  exact if_neg hnot

theorem maxV_eq {params : BoundedEkfParams (ExactDouble K)}
    (h : ClampParams params) : maxV params = params.maxVariance := by
  have hnot : ¬ params.maxVariance < params.minVariance :=
    (Double.not_lt (ne_nan_of_isFinite h.maxVariance_finite)
      (ne_nan_of_isFinite h.minVariance_finite)).2 h.minVariance_le
  unfold maxV
  rw [minV_eq h]
  exact if_neg hnot

/-! ## Clamps -/

variable [IsStrictOrderedRing K]

/-- Whatever is clamped ends within the bound. -/
theorem stdAbs_clampAbs_le {maxAbs : ExactDouble K} (hnonneg : 0 ≤ maxAbs)
    (value : ExactDouble K) : stdAbs (clampAbs maxAbs value) ≤ maxAbs := by
  have hmax := (ne_nan_of_le hnonneg).2
  unfold clampAbs
  split
  case isTrue => exact stdAbs_le (Double.neg_le_zero hnonneg) hnonneg
  case isFalse hfinite =>
    have hbound : stdMax 0 maxAbs ≤ maxAbs := stdMax_le hnonneg (Double.le_refl hmax)
    have hvalue : value ≠ .nan := ne_nan_of_isFinite (by simpa using hfinite)
    exact Double.le_trans (stdAbs_stdClamp_le hvalue (zero_le_stdMax maxAbs)) hbound

/-- Whatever is clamped ends within the bounds of the variances. -/
theorem clampCovariance_bounded {params : BoundedEkfParams (ExactDouble K)}
    (h : ClampParams params) (p : Covariance (ExactDouble K)) :
    CovarianceBounded params (clampCovariance params p) := by
  have hmax : params.maxVariance ≠ .nan := ne_nan_of_isFinite h.maxVariance_finite
  have hmaxNonneg : 0 ≤ params.maxVariance :=
    Double.le_trans h.minVariance_nonneg h.minVariance_le
  have hvariance : ∀ value : ExactDouble K,
      params.minVariance ≤ stdClamp (if !isFinite value then params.maxVariance else value)
          params.minVariance params.maxVariance ∧
        stdClamp (if !isFinite value then params.maxVariance else value)
          params.minVariance params.maxVariance ≤ params.maxVariance := by
    intro value
    refine stdClamp_mem ?_ h.minVariance_le
    split
    · exact hmax
    · exact ne_nan_of_isFinite (by simp_all)
  have hcross : ∀ value : ExactDouble K,
      stdAbs (stdClamp (if !isFinite value then 0 else value) (-params.maxVariance)
        params.maxVariance) ≤ params.maxVariance := by
    intro value
    refine stdAbs_stdClamp_le ?_ hmaxNonneg
    split
    · exact zero_ne_nan
    · exact ne_nan_of_isFinite (by simp_all)
  unfold clampCovariance
  simp only [minV_eq h, maxV_eq h]
  exact ⟨(hvariance _).1, (hvariance _).2, (hvariance _).1, (hvariance _).2, hcross _, hcross _⟩

/-! ## Operations -/

/-- The parameters in force are valid, and the estimate is within their bounds. -/
structure Sound (f : BoundedEkfFilter (ExactDouble K)) : Prop where
  valid : validParams f.params = true
  bounded : Bounded f

theorem initial_sound : Sound (initial : BoundedEkfFilter (ExactDouble K)) := by
  constructor
  · simp only [initial, validParams, ofScientific_eq_exact, zero_eq_exact, isFinite_exact,
      exact_lt_exact]
    norm_num
  · constructor
    · simp only [initial, stdAbs, ofScientific_eq_exact, zero_eq_exact, exact_lt_exact]
      norm_num
    · simp only [initial, stdAbs, ofScientific_eq_exact, zero_eq_exact, exact_lt_exact]
      norm_num
    · constructor <;>
        simp only [initial, stdAbs, ofScientific_eq_exact, zero_eq_exact, exact_lt_exact,
          exact_le_exact] <;>
        norm_num

variable {f : BoundedEkfFilter (ExactDouble K)}

/-- Clamping everything restores the bounds. -/
theorem bounded_of_clamped (h : validParams f.params = true)
    {x v : ExactDouble K} {p : Covariance (ExactDouble K)}
    (hx : f.x = clampPosition f.params x) (hv : f.v = clampVelocity f.params v)
    (hp : f.p = clampCovariance f.params p) : Bounded f := by
  have hclamp := clampParams_of_valid h
  constructor
  · rw [hx]
    exact stdAbs_clampAbs_le hclamp.maxAbsPosition_nonneg x
  · rw [hv]
    exact stdAbs_clampAbs_le hclamp.maxAbsVelocity_nonneg v
  · rw [hp]
    exact clampCovariance_bounded hclamp p

theorem predict_sound (h : validParams f.params = true)
    (accel dt : ExactDouble K) : Sound (f.predict accel dt) :=
  ⟨h, bounded_of_clamped h rfl rfl rfl⟩

theorem correct_sound (h : Sound f) (measurement : ExactDouble K) :
    Sound (f.correct measurement).filter := by
  rcases f.correct_cases measurement with ⟨-, heq⟩ | ⟨-, heq⟩ | ⟨-, x, v, healthy, heq⟩ <;>
    rw [heq]
  · exact ⟨h.valid, h.bounded.position, h.bounded.velocity, h.bounded.covariance⟩
  · exact ⟨h.valid, h.bounded.position, h.bounded.velocity, h.bounded.covariance⟩
  · exact ⟨h.valid, bounded_of_clamped h.valid rfl rfl rfl⟩

/-- With a positive lower bound of the variances, the innovation variance is positive
and passes its check. -/
theorem innovationVariance_of_sound (h : Sound f) (hmin : 0 < f.params.minVariance) :
    0 < f.innovationVariance ∧ f.invalidInnovationVariance = false := by
  have hclamp := clampParams_of_valid h.valid
  have hp00 : isFinite f.p.p00 = true :=
    isFinite_of_le_of_le hclamp.minVariance_finite hclamp.maxVariance_finite
      h.bounded.covariance.p00_min h.bounded.covariance.p00_max
  have hle := h.bounded.covariance.p00_min
  unfold invalidInnovationVariance innovationVariance
  obtain ⟨a, ha⟩ := exists_exact hp00
  obtain ⟨m, hm⟩ := exists_exact hclamp.minVariance_finite
  obtain ⟨r, hr⟩ := exists_exact hclamp.measurementNoise_finite
  rw [hm, zero_eq_exact, exact_lt_exact] at hmin
  rw [ha, hm, exact_le_exact] at hle
  have hmax : m ≤ max r m := le_max_right r m
  have hsum : 0 < a + max r m := by linarith
  have hexceeds : ¬ a + max r m ≤ m := by linarith
  simp [ha, hm, hr, zero_eq_exact, hsum, hexceeds]

theorem sound_preserved :
    (component (α := ExactDouble K)).Preserved Sound := by
  intro f e h
  cases e with
  | applyConfig cfg => exact ⟨h.valid, h.bounded.position, h.bounded.velocity, h.bounded.covariance⟩
  | setParams params =>
      simp only [component, setParams]
      split
      · exact ⟨‹_›, bounded_of_clamped ‹_› rfl rfl rfl⟩
      · exact h
  | reset position velocity => exact ⟨h.valid, bounded_of_clamped h.valid rfl rfl rfl⟩
  | update measurement accel =>
      simp only [component, update]
      split
      · exact ⟨h.valid, h.bounded.position, h.bounded.velocity, h.bounded.covariance⟩
      · exact correct_sound (predict_sound h.valid accel f.dtSeconds) measurement
  | updateTimestamped measurement accel timestampNs =>
      simp only [component, updateTimestamped]
      split
      · exact ⟨h.valid, h.bounded.position, h.bounded.velocity, h.bounded.covariance⟩
      · split
        · exact ⟨h.valid, h.bounded.position, h.bounded.velocity, h.bounded.covariance⟩
        · exact correct_sound (predict_sound (f := { f with lastTimestampNs := timestampNs })
            h.valid accel _) measurement

/-! ## Runs -/

/-- The measurement and the acceleration of an update. -/
def Event.input {α : Type*} [OfScientific α] : Event α → Option (α × α)
  | .update measurement accel => some (measurement, accel)
  | .updateTimestamped measurement accel _ => some (measurement, accel)
  | _ => none

/-- An update with an input that is not finite returns false and only changes the health
flag; with finite inputs and a positive lower bound of the variances an update does not
find the innovation variance invalid. -/
structure UpdateSafe (f : BoundedEkfFilter (ExactDouble K))
    (e : Event (ExactDouble K)) : Prop where
  rejected : ∀ measurement accel, e.input = some (measurement, accel) →
    (isFinite measurement && isFinite accel) = false →
    component.next f e = { f with healthy := false } ∧
      ∃ exit, component.output f e = some (false, exit)
  accepted : ∀ measurement accel, e.input = some (measurement, accel) →
    (isFinite measurement && isFinite accel) = true → 0 < f.params.minVariance →
    ∀ returned exit, component.output f e = some (returned, exit) →
      exit ≠ .invalidInnovationVariance

/-- A correction of a sound estimate does not leave by the exit for an invalid innovation
variance. -/
theorem correct_exit (h : Sound f) (hmin : 0 < f.params.minVariance)
    (measurement : ExactDouble K) :
    (f.correct measurement).exit ≠ .invalidInnovationVariance := by
  have hvalid := (innovationVariance_of_sound h hmin).2
  rcases f.correct_cases measurement with ⟨hinvalid, -⟩ | ⟨-, heq⟩ | ⟨-, x, v, healthy, heq⟩
  · rw [hvalid] at hinvalid
    cases hinvalid
  · simp [heq]
  · simp [heq]

theorem updateSafe_of_sound (h : Sound f) (e : Event (ExactDouble K)) :
    UpdateSafe f e := by
  constructor
  · intro measurement accel hinput hfinite
    have hinvalid : (!isFinite measurement || !isFinite accel) = true := by
      rw [← Bool.not_and, hfinite]
      rfl
    cases e with
    | applyConfig cfg => cases hinput
    | setParams params => cases hinput
    | reset position velocity => cases hinput
    | update m a =>
        cases hinput
        have heq : f.update measurement accel =
            ⟨{ f with healthy := false }, false, .invalidInput⟩ := if_pos hinvalid
        simp [component, heq]
    | updateTimestamped m a timestampNs =>
        cases hinput
        have heq : f.updateTimestamped measurement accel timestampNs =
            ⟨{ f with healthy := false }, false, .invalidInput⟩ := if_pos hinvalid
        simp [component, heq]
  · intro measurement accel hinput hfinite hmin returned exit houtput
    have hvalid : ¬ (!isFinite measurement || !isFinite accel) = true := by
      rw [← Bool.not_and, hfinite]
      exact Bool.false_ne_true
    cases e with
    | applyConfig cfg => cases hinput
    | setParams params => cases hinput
    | reset position velocity => cases hinput
    | update m a =>
        cases hinput
        have hpredicted := predict_sound h.valid accel f.dtSeconds
        have heq : f.update measurement accel =
            (f.predict accel f.dtSeconds).correct measurement := if_neg hvalid
        simp only [component, heq, Option.some.injEq, Prod.mk.injEq] at houtput
        exact houtput.2 ▸ correct_exit hpredicted hmin measurement
    | updateTimestamped m a timestampNs =>
        cases hinput
        have hpredicted := predict_sound (f := { f with lastTimestampNs := timestampNs })
          h.valid accel (f.timestampedDt timestampNs)
        simp only [component, Option.some.injEq, Prod.mk.injEq] at houtput
        rw [← houtput.2]
        unfold updateTimestamped
        rw [if_neg hvalid]
        dsimp only
        split
        · simp
        · exact correct_exit hpredicted hmin measurement

/-- In every run, after every operation: the estimate is within its bounds; with a
positive lower bound of the variances every innovation variance is positive; and every
update rejects inputs that are not finite without touching the estimate, and does not
reject finite ones for their innovation variance. -/
theorem run_bounded (es : List (Event (ExactDouble K))) :
    Bounded (component.run (initial : BoundedEkfFilter (ExactDouble K)) es) ∧
      (0 < (component.run (initial : BoundedEkfFilter (ExactDouble K))
          es).params.minVariance →
        ∀ accel dt, 0 < ((component.run
          (initial : BoundedEkfFilter (ExactDouble K)) es).predict accel
            dt).innovationVariance) ∧
      component.Along UpdateSafe
        (initial : BoundedEkfFilter (ExactDouble K)) es := by
  have hsound := sound_preserved.run (initial_sound (K := K)) es
  refine ⟨hsound.bounded, fun hmin accel dt => ?_, ?_⟩
  · exact (innovationVariance_of_sound (predict_sound hsound.valid accel dt) hmin).1
  · exact sound_preserved.along (fun f e h => updateSafe_of_sound h e) initial_sound es

/-- A measurement that is not a number, at the first update. -/
def nanFirst : List (Event (ExactDouble ℚ)) := [.update .nan 0, .update 1.0 0]

theorem run_bounded_nan :
    Bounded (component.run (initial : BoundedEkfFilter (ExactDouble ℚ)) nanFirst) ∧
      (0 < (component.run (initial : BoundedEkfFilter (ExactDouble ℚ))
          nanFirst).params.minVariance →
        ∀ accel dt, 0 < ((component.run
          (initial : BoundedEkfFilter (ExactDouble ℚ)) nanFirst).predict accel
            dt).innovationVariance) ∧
      component.Along UpdateSafe
        (initial : BoundedEkfFilter (ExactDouble ℚ)) nanFirst :=
  run_bounded nanFirst

end BoundedEkfFilter

end SafetyCore
