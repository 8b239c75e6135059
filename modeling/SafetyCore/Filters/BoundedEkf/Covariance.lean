import Mathlib.Algebra.Order.Ring.Rat
import Mathlib.Tactic.FieldSimp
import Mathlib.Tactic.Linarith
import Mathlib.Tactic.Ring
import SafetyCore.Filters.BoundedEkf

/-!
# The covariance of the filter

A prediction and a correction keep the covariance symmetric and positive semidefinite.
The clamp of the variances does not: it may cut one variance and leave the cross term as
it is. `CrossFits` says of a covariance that its cross term fits to the cut variances.
-/

namespace SafetyCore

open Arithmetic Transition

section Covariance

variable {K : Type*} [Field K] [LinearOrder K] [IsStrictOrderedRing K]

/-- A symmetric, positive semidefinite matrix. -/
structure Covariance.Valid (p : Covariance K) : Prop where
  symmetric : p.p01 = p.p10
  p00_nonneg : 0 ≤ p.p00
  p11_nonneg : 0 ≤ p.p11
  cross : p.p01 * p.p01 ≤ p.p00 * p.p11

/-- Both variances are cut, or the cross term fits to the variances that are left. -/
def Covariance.CrossFits (maxVariance : K) (p : Covariance K) : Prop :=
  (maxVariance ≤ p.p00 ∧ maxVariance ≤ p.p11) ∨
    p.p01 * p.p01 ≤ min p.p00 maxVariance * min p.p11 maxVariance

instance (maxVariance : K) (p : Covariance K) : Decidable (p.CrossFits maxVariance) :=
  inferInstanceAs (Decidable (_ ∨ _))

end Covariance

namespace BoundedEkfFilter

variable {K : Type*} [Field K] [LinearOrder K] [IsStrictOrderedRing K]
  {params : BoundedEkfParams K} {p : Covariance K}

omit [IsStrictOrderedRing K] in
/-- The bounds of the variances that the checks of `set_params` leave. -/
theorem variances_of_valid (h : validParams params = true) :
    0 ≤ params.minVariance ∧ params.minVariance ≤ params.maxVariance := by
  unfold validParams at h
  simp only [Bool.and_eq_true, Bool.not_eq_true', Bool.or_eq_false_iff,
    decide_eq_false_iff_not, not_lt] at h
  exact ⟨h.2.1.1.1.1, h.2.1.1.1.2⟩

/-- The transition matrix of a time step applied from both sides. -/
theorem transition_valid (h : p.Valid) (dt : K) :
    Covariance.Valid
      ⟨p.p00 + dt * (p.p10 + p.p01) + dt * dt * p.p11, p.p01 + dt * p.p11,
        p.p10 + dt * p.p11, p.p11⟩ := by
  obtain ⟨a, b, b', c⟩ := p
  obtain ⟨hsymmetric, ha, hc, hcross⟩ := h
  obtain rfl : b = b' := hsymmetric
  dsimp only at ha hc hcross ⊢
  -- the determinant stays the same
  have hdet : (b + dt * c) * (b + dt * c) ≤ (a + dt * (b + b) + dt * dt * c) * c := by
    linarith
  refine ⟨rfl, ?_, hc, hdet⟩
  dsimp only
  rcases hc.eq_or_lt with rfl | hpos
  · have hb : b = 0 :=
      mul_self_eq_zero.1 (le_antisymm (by simpa using hcross) (mul_self_nonneg b))
    simpa [hb] using ha
  · exact nonneg_of_mul_nonneg_left ((mul_self_nonneg _).trans hdet) hpos

/-- A prediction keeps the covariance valid, with variances of at least the minimum. -/
theorem predictCovariance_valid (h : p.Valid) (hmin : 0 ≤ params.minVariance) (dt : K) :
    (predictCovariance params dt p).Valid ∧
      params.minVariance ≤ (predictCovariance params dt p).p00 ∧
      params.minVariance ≤ (predictCovariance params dt p).p11 := by
  obtain ⟨hsymmetric, h00, h11, hcross⟩ := transition_valid h dt
  have hqPos := le_max_right params.processNoisePosition params.minVariance
  have hqVel := le_max_right params.processNoiseVelocity params.minVariance
  unfold predictCovariance
  simp only [stdMax_eq_max]
  generalize max params.processNoisePosition params.minVariance = qPos at hqPos
  generalize max params.processNoiseVelocity params.minVariance = qVel at hqVel
  have hpos := add_nonneg h00 (hmin.trans hqPos)
  have hvel := add_nonneg h11 (hmin.trans hqVel)
  refine ⟨⟨hsymmetric, hpos, hvel, hcross.trans ?_⟩, ?_, ?_⟩
  · exact mul_le_mul (le_add_of_nonneg_right (hmin.trans hqPos))
      (le_add_of_nonneg_right (hmin.trans hqVel)) h11 hpos
  · exact hqPos.trans (le_add_of_nonneg_left h00)
  · exact hqVel.trans (le_add_of_nonneg_left h11)

/-- A correction with a noise that is not negative keeps the covariance valid, and
increases no variance. -/
theorem correctCovariance_valid (h : p.Valid) {r : K} (hr : 0 ≤ r) (hs : 0 < p.p00 + r) :
    (correctCovariance (p.p00 + r) p).Valid ∧
      (correctCovariance (p.p00 + r) p).p00 ≤ p.p00 ∧
      (correctCovariance (p.p00 + r) p).p11 ≤ p.p11 := by
  obtain ⟨a, b, b', c⟩ := p
  obtain ⟨hsymmetric, ha, hc, hcross⟩ := h
  obtain rfl : b = b' := hsymmetric
  dsimp only at ha hc hcross hs
  obtain ⟨s, hsum⟩ : ∃ s, s = a + r := ⟨_, rfl⟩
  have hone : (1.0 : K) = 1 := by norm_num
  have hcorrect : correctCovariance (a + r) ⟨a, b, b, c⟩ =
      ⟨r * a / s, r * b / s, r * b / s, c - b * b / s⟩ := by
    rw [correctCovariance, hone, hsum, Covariance.mk.injEq]
    refine ⟨?_, ?_, ?_, ?_⟩ <;> field_simp <;> ring
  rw [← hsum] at hs
  have hshare : b * b / s ≤ c := by
    rw [div_le_iff₀ hs]
    nlinarith
  rw [hcorrect]
  refine ⟨⟨rfl, by positivity, sub_nonneg.2 hshare, ?_⟩, ?_, ?_⟩
  · -- the determinant is scaled by `r / s`
    have hdet : r * a / s * (c - b * b / s) - r * b / s * (r * b / s) =
        r / s * (a * c - b * b) := by
      rw [hsum]
      rw [hsum] at hs
      field_simp
      ring
    have hnonneg : 0 ≤ r / s * (a * c - b * b) :=
      mul_nonneg (div_nonneg hr hs.le) (sub_nonneg.2 hcross)
    dsimp only
    linarith
  · dsimp only
    rw [div_le_iff₀ hs, hsum]
    nlinarith
  · exact sub_le_self c (div_nonneg (mul_self_nonneg b) hs.le)

/-- The entries of a clamped covariance. -/
theorem clampCovariance_eq (h : validParams params = true) :
    clampCovariance params p =
      { p00 := max params.minVariance (min p.p00 params.maxVariance)
        p01 := max (-params.maxVariance) (min p.p01 params.maxVariance)
        p10 := max (-params.maxVariance) (min p.p10 params.maxVariance)
        p11 := max params.minVariance (min p.p11 params.maxVariance) } := by
  obtain ⟨hmin, hle⟩ := variances_of_valid h
  have hcross : -params.maxVariance ≤ params.maxVariance := neg_le_self (hmin.trans hle)
  have hminV : minV params = params.minVariance := by
    rw [minV, stdMax_eq_max, max_eq_left hmin]
  have hmaxV : maxV params = params.maxVariance := by
    rw [maxV, stdMax_eq_max, hminV, max_eq_left hle]
  simp only [clampCovariance, hminV, hmaxV, isFinite, Bool.not_true, Bool.false_eq_true,
    if_false, stdClamp_eq_max_min _ hle, stdClamp_eq_max_min _ hcross]

/-- Clamping keeps a covariance valid whose cross term fits. -/
theorem clampCovariance_valid (hparams : validParams params = true) (h : p.Valid)
    (hfits : p.CrossFits params.maxVariance) : (clampCovariance params p).Valid := by
  obtain ⟨hmin, hle⟩ := variances_of_valid hparams
  have hmax : 0 ≤ params.maxVariance := hmin.trans hle
  obtain ⟨cross, hcrossEq⟩ :
      ∃ cross, cross = max (-params.maxVariance) (min p.p01 params.maxVariance) := ⟨_, rfl⟩
  have hsmaller : cross * cross ≤ p.p01 * p.p01 := by
    rw [← abs_le_iff_mul_self_le, hcrossEq, abs_le]
    have hneg : -|p.p01| ≤ params.maxVariance :=
      (neg_nonpos.2 (abs_nonneg p.p01)).trans hmax
    exact ⟨le_max_of_le_right (le_min (neg_abs_le p.p01) hneg),
      max_le ((neg_nonpos.2 hmax).trans (abs_nonneg p.p01))
        ((min_le_left _ _).trans (le_abs_self p.p01))⟩
  have hbound : cross * cross ≤ params.maxVariance * params.maxVariance := by
    rw [← abs_le_iff_mul_self_le, abs_of_nonneg hmax, hcrossEq, abs_le]
    exact ⟨le_max_left _ _, max_le (neg_le_self hmax) (min_le_right _ _)⟩
  have h00 : min p.p00 params.maxVariance ≤
      max params.minVariance (min p.p00 params.maxVariance) := le_max_right _ _
  have h11 : min p.p11 params.maxVariance ≤
      max params.minVariance (min p.p11 params.maxVariance) := le_max_right _ _
  have hproduct : min p.p00 params.maxVariance * min p.p11 params.maxVariance ≤
      max params.minVariance (min p.p00 params.maxVariance) *
        max params.minVariance (min p.p11 params.maxVariance) :=
    mul_le_mul h00 h11 (le_min h.p11_nonneg hmax) (le_max_of_le_left hmin)
  rw [clampCovariance_eq hparams, ← hcrossEq]
  refine ⟨?_, le_max_of_le_left hmin, le_max_of_le_left hmin, ?_⟩
  · dsimp only
    rw [hcrossEq, h.symmetric]
  · dsimp only
    refine le_trans ?_ hproduct
    rcases hfits with ⟨hcut00, hcut11⟩ | hfits
    · rwa [min_eq_right hcut00, min_eq_right hcut11]
    · exact hsmaller.trans hfits

/-! ## Runs -/

/-- The cross term fits wherever the step cuts the covariance by new parameters or after
a prediction. A stale measurement predicts nothing. -/
def KeepsCross (f : BoundedEkfFilter K) : Event K → Prop
  | .setParams params => validParams params = true → f.p.CrossFits params.maxVariance
  | .update _ _ =>
      (predictCovariance f.params f.dtSeconds f.p).CrossFits f.params.maxVariance
  | .updateTimestamped _ _ timestampNs =>
      ¬ f.dtSeconds * kStaleMeasurementMultiplier < f.timestampedDt timestampNs →
        (predictCovariance f.params (f.timestampedDt timestampNs) f.p).CrossFits
          f.params.maxVariance
  | _ => True

instance (f : BoundedEkfFilter K) : ∀ e, Decidable (KeepsCross f e)
  | .setParams params =>
      inferInstanceAs (Decidable (validParams params = true → f.p.CrossFits params.maxVariance))
  | .update _ _ => inferInstanceAs (Decidable (Covariance.CrossFits _ _))
  | .updateTimestamped _ _ timestampNs =>
      inferInstanceAs (Decidable
        (¬ f.dtSeconds * kStaleMeasurementMultiplier < f.timestampedDt timestampNs →
          Covariance.CrossFits _ _))
  | .applyConfig _ => inferInstanceAs (Decidable True)
  | .reset _ _ => inferInstanceAs (Decidable True)

/-- The parameters in force are valid, and so is the covariance. -/
structure CovarianceSound (f : BoundedEkfFilter K) : Prop where
  params : validParams f.params = true
  covariance : f.p.Valid

variable {f : BoundedEkfFilter K}

theorem initial_covarianceSound : CovarianceSound (initial : BoundedEkfFilter K) := by
  constructor
  · simp only [initial, validParams, isFinite]
    norm_num
  · constructor <;> norm_num [initial]

theorem predict_covarianceSound (h : CovarianceSound f) {accel dt : K}
    (hfits : (predictCovariance f.params dt f.p).CrossFits f.params.maxVariance) :
    CovarianceSound (f.predict accel dt) :=
  ⟨h.params, clampCovariance_valid h.params
    (predictCovariance_valid h.covariance (variances_of_valid h.params).1 dt).1 hfits⟩

/-- A correction cuts no variance, since it increases none. -/
theorem correct_covarianceSound (h : CovarianceSound f)
    (h00 : f.p.p00 ≤ f.params.maxVariance) (h11 : f.p.p11 ≤ f.params.maxVariance)
    (measurement : K) : CovarianceSound (f.correct measurement).filter := by
  rcases f.correct_cases measurement with ⟨-, heq⟩ | ⟨-, heq⟩ | ⟨hvariance, x, v, healthy, heq⟩ <;>
    rw [heq]
  · exact ⟨h.params, h.covariance⟩
  · exact ⟨h.params, h.covariance⟩
  · have hmin := (variances_of_valid h.params).1
    have hnoise : 0 ≤ max f.params.measurementNoise f.params.minVariance :=
      le_max_of_le_right hmin
    have hs : f.params.minVariance < f.innovationVariance := by
      simpa [invalidInnovationVariance, isFinite] using hvariance
    rw [innovationVariance, stdMax_eq_max] at hs ⊢
    obtain ⟨hvalid, hle00, hle11⟩ :=
      correctCovariance_valid h.covariance hnoise (hmin.trans_lt hs)
    refine ⟨h.params, clampCovariance_valid h.params hvalid (.inr ?_)⟩
    rw [min_eq_left (hle00.trans h00), min_eq_left (hle11.trans h11)]
    exact hvalid.cross

/-- A prediction whose cross term does not fit leaves an invalid covariance. -/
theorem predict_valid_iff (h : CovarianceSound f) (accel dt : K) :
    (f.predict accel dt).p.Valid ↔
      (predictCovariance f.params dt f.p).CrossFits f.params.maxVariance := by
  refine ⟨fun hvalid => ?_, fun hfits => (predict_covarianceSound h hfits).covariance⟩
  obtain ⟨hmin, hle⟩ := variances_of_valid h.params
  obtain ⟨hpredicted, h00, h11⟩ := predictCovariance_valid h.covariance hmin dt
  have hmax := hmin.trans hle
  have hp : (f.predict accel dt).p =
      clampCovariance f.params (predictCovariance f.params dt f.p) := rfl
  have hcross := hvalid.cross
  rw [hp, clampCovariance_eq h.params] at hcross
  generalize predictCovariance f.params dt f.p = p at *
  dsimp only at hcross
  rw [max_eq_right (le_min h00 hle), max_eq_right (le_min h11 hle)] at hcross
  rcases le_or_gt |p.p01| f.params.maxVariance with hsmall | hlarge
  · -- the cross term is not cut
    obtain ⟨hlo, hhi⟩ := abs_le.1 hsmall
    rw [min_eq_left hhi, max_eq_right hlo] at hcross
    exact .inr hcross
  · -- the cross term is cut to the upper bound of the variances
    have hcut : max (-f.params.maxVariance) (min p.p01 f.params.maxVariance) *
        max (-f.params.maxVariance) (min p.p01 f.params.maxVariance) =
        f.params.maxVariance * f.params.maxVariance := by
      rcases lt_abs.1 hlarge with h | h
      · rw [min_eq_right h.le, max_eq_right (neg_le_self hmax)]
      · have hlow : p.p01 ≤ -f.params.maxVariance := by linarith
        rw [min_eq_left (hlow.trans (neg_le_self hmax)), max_eq_left hlow, neg_mul_neg]
    rw [hcut] at hcross
    left
    rcases hmax.eq_or_lt with hzero | hpos
    · rw [← hzero]
      exact ⟨hpredicted.p00_nonneg, hpredicted.p11_nonneg⟩
    · have hmin00 : 0 ≤ min p.p00 f.params.maxVariance := le_min hpredicted.p00_nonneg hmax
      have hmin11 : 0 ≤ min p.p11 f.params.maxVariance := le_min hpredicted.p11_nonneg hmax
      have hleft := hcross.trans
        (mul_le_mul_of_nonneg_left (min_le_right p.p11 f.params.maxVariance) hmin00)
      have hright := hcross.trans
        (mul_le_mul_of_nonneg_right (min_le_right p.p00 f.params.maxVariance) hmin11)
      exact ⟨(le_of_mul_le_mul_right hleft hpos).trans (min_le_left _ _),
        (le_of_mul_le_mul_left hright hpos).trans (min_le_left _ _)⟩

theorem predict_variances_le (h : validParams f.params = true) (accel dt : K) :
    (f.predict accel dt).p.p00 ≤ f.params.maxVariance ∧
      (f.predict accel dt).p.p11 ≤ f.params.maxVariance := by
  have hle := (variances_of_valid h).2
  have hp : (f.predict accel dt).p =
      clampCovariance f.params (predictCovariance f.params dt f.p) := rfl
  rw [hp, clampCovariance_eq h]
  exact ⟨max_le hle (min_le_right _ _), max_le hle (min_le_right _ _)⟩

theorem covarianceSound_next (e : Event K) (hkeeps : KeepsCross f e)
    (h : CovarianceSound f) : CovarianceSound (component.next f e) := by
  cases e with
  | applyConfig cfg => exact ⟨h.params, h.covariance⟩
  | setParams params =>
      simp only [component, setParams]
      split
      case isTrue hvalid =>
        exact ⟨hvalid, clampCovariance_valid hvalid h.covariance (hkeeps hvalid)⟩
      case isFalse => exact h
  | reset position velocity =>
      obtain ⟨hmin, hle⟩ := variances_of_valid h.params
      have hone : (0 : K) ≤ min 1 f.params.maxVariance := le_min zero_le_one (hmin.trans hle)
      refine ⟨h.params, clampCovariance_valid h.params ?_ (.inr ?_)⟩
      · constructor <;> norm_num
      · norm_num
        exact mul_nonneg hone hone
  | update measurement accel =>
      have heq : component.next f (.update measurement accel) =
          ((f.predict accel f.dtSeconds).correct measurement).filter := rfl
      obtain ⟨h00, h11⟩ := predict_variances_le h.params accel f.dtSeconds
      rw [heq]
      exact correct_covarianceSound (predict_covarianceSound h hkeeps) h00 h11 measurement
  | updateTimestamped measurement accel timestampNs =>
      simp only [component, updateTimestamped, isFinite, Bool.not_true, Bool.or_self,
        Bool.false_eq_true, if_false]
      split
      case isTrue => exact ⟨h.params, h.covariance⟩
      case isFalse hfresh =>
        have hstep : CovarianceSound { f with lastTimestampNs := timestampNs } :=
          ⟨h.params, h.covariance⟩
        obtain ⟨h00, h11⟩ := predict_variances_le
          (f := { f with lastTimestampNs := timestampNs }) h.params accel
          (f.timestampedDt timestampNs)
        exact correct_covarianceSound (predict_covarianceSound hstep (hkeeps hfresh)) h00 h11
          measurement

/-- In every run that cuts no variance below what its cross term needs, the covariance
is a valid covariance matrix after every operation. -/
theorem run_covariance_valid (es : List (Event K))
    (hes : component.Along KeepsCross (initial : BoundedEkfFilter K) es) :
    (component.run (initial : BoundedEkfFilter K) es).p.p01 =
        (component.run (initial : BoundedEkfFilter K) es).p.p10 ∧
      (component.run (initial : BoundedEkfFilter K) es).p.p01 *
          (component.run (initial : BoundedEkfFilter K) es).p.p01 ≤
        (component.run (initial : BoundedEkfFilter K) es).p.p00 *
          (component.run (initial : BoundedEkfFilter K) es).p.p11 := by
  have hsound : CovarianceSound (component.run (initial : BoundedEkfFilter K) es) :=
    Component.Along.run (fun _ _ => covarianceSound_next _) initial_covarianceSound hes
  exact ⟨hsound.covariance.symmetric, hsound.covariance.cross⟩

/-- Two measurements one default time step apart, of a filter at rest. -/
theorem run_covariance_valid_rest :
    (component.run (initial : BoundedEkfFilter ℚ) [.update 0 0, .update 0 0]).p.p01 =
        (component.run (initial : BoundedEkfFilter ℚ) [.update 0 0, .update 0 0]).p.p10 ∧
      (component.run (initial : BoundedEkfFilter ℚ) [.update 0 0, .update 0 0]).p.p01 *
          (component.run (initial : BoundedEkfFilter ℚ) [.update 0 0, .update 0 0]).p.p01 ≤
        (component.run (initial : BoundedEkfFilter ℚ) [.update 0 0, .update 0 0]).p.p00 *
          (component.run (initial : BoundedEkfFilter ℚ) [.update 0 0, .update 0 0]).p.p11 := by
  exact run_covariance_valid _ (by decide +kernel)

/-- With an upper bound of 2, three measurements that the gate rejects, one second
apart, leave the variances 2 and 1.03 with the cross term 2. -/
theorem covariance_not_always_valid :
    ¬ ∀ es : List (Event ℚ),
      (component.run (initial : BoundedEkfFilter ℚ) es).p.p01 =
          (component.run (initial : BoundedEkfFilter ℚ) es).p.p10 ∧
        (component.run (initial : BoundedEkfFilter ℚ) es).p.p01 *
            (component.run (initial : BoundedEkfFilter ℚ) es).p.p01 ≤
          (component.run (initial : BoundedEkfFilter ℚ) es).p.p00 *
            (component.run (initial : BoundedEkfFilter ℚ) es).p.p11 := by
  intro h
  have hrun := (h [.setParams { maxVariance := 2 }, .updateTimestamped 1000 0 1,
    .updateTimestamped 1000 0 1000000001, .updateTimestamped 1000 0 2000000001]).2
  exact absurd hrun (by decide +kernel)

end BoundedEkfFilter

end SafetyCore
