import Mathlib.Tactic.FieldSimp
import Mathlib.Tactic.NormNum
import Mathlib.Tactic.Ring
import SafetyCore.Arithmetic.ClampedAffine
import SafetyCore.Filters.Complementary

/-!
# Constant measurements

With constant measurements an update is a clamped affine map of the state. Its slope is the
share of the rate, which lies between zero and one however it is derived.
-/

namespace SafetyCore

open Arithmetic

namespace ComplementaryFilter

variable {K : Type*} [Field K] [LinearOrder K]

/-- What an update clamps, from the state `state`. -/
def complementary (f : ComplementaryFilter K) (rateMeasurement absoluteMeasurement state : K) :
    K :=
  let alpha := computeAlpha f.params f.dtSeconds
  alpha * (state + rateMeasurement * f.dtSeconds) + (1.0 - alpha) * absoluteMeasurement

/-- The state after `n` updates with constant measurements. -/
def stateAfter (f : ComplementaryFilter K) (rateMeasurement absoluteMeasurement : K) (n : ℕ) :
    K :=
  ((fun f => f.update rateMeasurement absoluteMeasurement)^[n] f).state

/-- The bound of the parameters. -/
def maxAbs (params : ComplementaryFilterParams K) : K := max 0 params.maxAbsState

theorem maxAbs_nonneg (params : ComplementaryFilterParams K) : 0 ≤ maxAbs params :=
  le_max_left _ _

variable [IsStrictOrderedRing K]

theorem clampFinite_eq (params : ComplementaryFilterParams K) (value : K) :
    clampFinite params value = clampSym (maxAbs params) value := by
  have hneg : -maxAbs params ≤ maxAbs params :=
    (neg_nonpos.2 (maxAbs_nonneg params)).trans (maxAbs_nonneg params)
  unfold clampFinite BoundedEkfFilter.clampAbs
  rw [if_neg (by simp [isFinite])]
  simp only [stdMax_eq_max]
  exact stdClamp_eq_max_min value hneg

theorem computeAlpha_mem (params : ComplementaryFilterParams K) (dt : K) :
    0 ≤ computeAlpha params dt ∧ computeAlpha params dt ≤ 1 := by
  have hone : (1.0 : K) = 1 := by norm_num
  have hclamp : ∀ value : K, 0 ≤ stdClamp value 0 1 ∧ stdClamp value 0 1 ≤ 1 := by
    intro value
    rw [stdClamp_eq_max_min value zero_le_one]
    exact ⟨le_max_left _ _, max_le zero_le_one (min_le_right _ _)⟩
  unfold computeAlpha
  rw [hone]
  split
  · exact hclamp _
  · exact hclamp _

/-! ## One update -/

/-- What is clamped is affine in the state. -/
theorem complementary_eq (f : ComplementaryFilter K) (rate absolute state : K) :
    f.complementary rate absolute state =
      computeAlpha f.params f.dtSeconds * state +
        (computeAlpha f.params f.dtSeconds * (rate * f.dtSeconds) +
          (1 - computeAlpha f.params f.dtSeconds) * absolute) := by
  have hone : (1.0 : K) = 1 := by norm_num
  simp only [complementary, hone]
  ring

/-- The state after an update that finds the state `state`. -/
def nextState (f : ComplementaryFilter K) (rate absolute state : K) : K :=
  clampSym (maxAbs f.params) (f.complementary rate absolute state)

theorem update_eq (f : ComplementaryFilter K) (rate absolute : K) :
    f.update rate absolute = { f with state := f.nextState rate absolute f.state } := by
  rw [nextState, ← clampFinite_eq]
  rfl

theorem nextState_monotone (f : ComplementaryFilter K) (rate absolute : K) :
    Monotone (f.nextState rate absolute) := by
  intro x y hxy
  refine clampSym_monotone _ ?_
  rw [complementary_eq, complementary_eq]
  gcongr
  exact (computeAlpha_mem f.params f.dtSeconds).1

theorem abs_nextState_le (f : ComplementaryFilter K) (rate absolute state : K) :
    |f.nextState rate absolute state| ≤ maxAbs f.params :=
  abs_clampSym_le (maxAbs_nonneg f.params) _

/-- The clamped fixed point is fixed by an update. -/
theorem nextState_clampFinite {f : ComplementaryFilter K} {rate absolute p : K}
    (hfix : f.complementary rate absolute p = p) :
    f.nextState rate absolute (clampFinite f.params p) = clampFinite f.params p := by
  rw [complementary_eq] at hfix
  rw [nextState, complementary_eq, clampFinite_eq]
  exact clampSym_affine_fixed (maxAbs_nonneg f.params)
    (computeAlpha_mem f.params f.dtSeconds).2 hfix

theorem exists_complementary_fixed {f : ComplementaryFilter K} (rate absolute : K)
    (halpha : computeAlpha f.params f.dtSeconds < 1) :
    ∃ p, f.complementary rate absolute p = p := by
  have hne : 1 - computeAlpha f.params f.dtSeconds ≠ 0 := (sub_pos.2 halpha).ne'
  refine ⟨(computeAlpha f.params f.dtSeconds * (rate * f.dtSeconds) +
    (1 - computeAlpha f.params f.dtSeconds) * absolute) /
      (1 - computeAlpha f.params f.dtSeconds), ?_⟩
  rw [complementary_eq]
  field_simp
  ring

/-! ## Whole runs -/

theorem stateAfter_eq (f : ComplementaryFilter K) (rate absolute : K) (n : ℕ) :
    f.stateAfter rate absolute n = (f.nextState rate absolute)^[n] f.state := by
  have hrun : (fun f => f.update rate absolute)^[n] f =
      { f with state := (f.nextState rate absolute)^[n] f.state } := by
    induction n with
    | zero => rfl
    | succ n ih =>
        rw [Function.iterate_succ_apply', ih, update_eq, Function.iterate_succ_apply']
        rfl
  rw [stateAfter, hrun]

/-- An update leaves a filter as it is exactly at the clamped fixed point, if the share of the rate
is below one. -/
theorem update_eq_self_iff {f : ComplementaryFilter K} {rate absolute p : K}
    (halpha : computeAlpha f.params f.dtSeconds < 1)
    (hfix : f.complementary rate absolute p = p) :
    f.update rate absolute = f ↔ f.state = clampFinite f.params p := by
  have hclamped := nextState_clampFinite hfix
  have hself : f.update rate absolute = f ↔ f.nextState rate absolute f.state = f.state := by
    rw [update_eq]
    exact ⟨congrArg state, fun h => by rw [h]⟩
  rw [hself]
  constructor
  · intro hstate
    rw [nextState, complementary_eq] at hstate hclamped
    exact clampSym_affine_fixed_unique (computeAlpha_mem f.params f.dtSeconds).1 halpha hstate
      hclamped
  · intro hstate
    rw [hstate, hclamped]

/-- For every filter, reset and pair of measurements: the states are monotone and within the
bound. If the share of the rate is below one there is a fixed point, an update leaves a filter as
it is exactly at the clamped one, and the states do not pass it. -/
theorem stateAfter_reset (f : ComplementaryFilter K) (state rate absolute : K) :
    (Monotone ((f.reset state).stateAfter rate absolute) ∨
        Antitone ((f.reset state).stateAfter rate absolute)) ∧
      (∀ n, |(f.reset state).stateAfter rate absolute n| ≤ max 0 f.params.maxAbsState) ∧
      (computeAlpha f.params f.dtSeconds < 1 →
        ∃ p, f.complementary rate absolute p = p ∧
          (∀ x, { f with state := x }.update rate absolute = { f with state := x } ↔
            x = clampFinite f.params p) ∧
          ∀ m n, m ≤ n →
            ((f.reset state).stateAfter rate absolute m ≤ clampFinite f.params p →
              (f.reset state).stateAfter rate absolute n ≤ clampFinite f.params p) ∧
            (clampFinite f.params p ≤ (f.reset state).stateAfter rate absolute m →
              clampFinite f.params p ≤ (f.reset state).stateAfter rate absolute n)) := by
  have hmono := (f.reset state).nextState_monotone rate absolute
  have heq := (f.reset state).stateAfter_eq rate absolute
  refine ⟨?_, fun n => ?_, fun halpha => ?_⟩
  · rw [funext heq]
    exact monotone_or_antitone_iterate hmono _
  · rw [heq]
    cases n with
    | zero =>
        have hreset := clampFinite_eq f.params state
        exact (congrArg abs hreset).trans_le (abs_clampSym_le (maxAbs_nonneg f.params) _)
    | succ n =>
        rw [Function.iterate_succ_apply']
        exact (f.reset state).abs_nextState_le rate absolute _
  · obtain ⟨p, hfix⟩ := exists_complementary_fixed rate absolute halpha
    have hclamped : (f.reset state).nextState rate absolute (clampFinite f.params p) =
      clampFinite f.params p := nextState_clampFinite (f := f.reset state) hfix
    refine ⟨p, hfix, fun x => update_eq_self_iff halpha hfix, fun m n hmn => ?_⟩
    obtain ⟨k, rfl⟩ := Nat.exists_eq_add_of_le hmn
    rw [heq, heq, Nat.add_comm, Function.iterate_add_apply]
    exact ⟨fun h => iterate_le_fixedPoint hmono hclamped h k,
      fun h => fixedPoint_le_iterate hmono hclamped h k⟩

/-- The states of a new filter with an absolute measurement of ten. -/
def towardsTen : ℕ → ℚ := ((initial : ComplementaryFilter ℚ).reset 0).stateAfter 0 10

theorem stateAfter_reset_towardsTen :
    (Monotone towardsTen ∨ Antitone towardsTen) ∧ (∀ n, |towardsTen n| ≤ 1000.0) ∧
      ∃ p : ℚ, (initial : ComplementaryFilter ℚ).complementary 0 10 p = p ∧
        (∀ x : ℚ, { (initial : ComplementaryFilter ℚ) with state := x }.update 0 10 =
          { (initial : ComplementaryFilter ℚ) with state := x } ↔
            x = clampFinite initial.params p) ∧
        ∀ m n, m ≤ n →
          (towardsTen m ≤ clampFinite initial.params p →
            towardsTen n ≤ clampFinite initial.params p) ∧
          (clampFinite initial.params p ≤ towardsTen m →
            clampFinite initial.params p ≤ towardsTen n) := by
  have halpha : computeAlpha (initial : ComplementaryFilter ℚ).params initial.dtSeconds < 1 := by
    decide +kernel
  have hmax : max 0 (initial : ComplementaryFilter ℚ).params.maxAbsState = 1000.0 := by
    decide +kernel
  obtain ⟨hmono, hbound, hfixed⟩ := stateAfter_reset (initial : ComplementaryFilter ℚ) 0 0 10
  exact ⟨hmono, fun n => (hbound n).trans_eq hmax, hfixed halpha⟩

end ComplementaryFilter

end SafetyCore
