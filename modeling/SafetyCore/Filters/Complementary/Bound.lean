import Mathlib.Algebra.Order.Ring.Rat
import Mathlib.Tactic.NormNum
import SafetyCore.Arithmetic.Double.Unbounded
import SafetyCore.Filters.Complementary

/-!
# The bound of the complementary filter

A reset and an update clamp the state to the bound of the parameters. New parameters bring a
new bound and leave the state as it is, so a smaller bound can be exceeded until the next
update.
-/

namespace SafetyCore

open Arithmetic Transition Double

namespace ComplementaryFilter

variable {K : Type*} [Field K] [LinearOrder K] [IsStrictOrderedRing K] {F : Format K}

/-- The bound that the parameters set on the state. -/
def bound (params : ComplementaryFilterParams (Double F)) : Double F :=
  stdMax 0 params.maxAbsState

/-- The state is within the bound of the parameters in force. -/
def InBound (f : ComplementaryFilter (Double F)) : Prop := stdAbs f.state ≤ bound f.params

theorem stdAbs_clampFinite_le (params : ComplementaryFilterParams (Double F))
    (value : Double F) : stdAbs (clampFinite params value) ≤ bound params := by
  have hnonneg : 0 ≤ bound params := zero_le_stdMax params.maxAbsState
  unfold clampFinite BoundedEkfFilter.clampAbs
  split
  case isTrue => exact stdAbs_le (neg_le_zero hnonneg) hnonneg
  case isFalse hfinite =>
    have hvalue : value ≠ .nan := ne_nan_of_isFinite (by simpa using hfinite)
    exact stdAbs_stdClamp_le hvalue hnonneg

theorem inBound_initial : InBound (initial : ComplementaryFilter (Double F)) := by
  have hzero : stdAbs (0 : Double F) = 0 := stdAbs_zero
  rw [InBound, initial, hzero]
  exact zero_le_stdMax _

theorem inBound_reset (f : ComplementaryFilter (Double F)) (state : Double F) :
    InBound (f.reset state) :=
  stdAbs_clampFinite_le f.params state

theorem inBound_advance (f : ComplementaryFilter (Double F))
    (rateMeasurement absoluteMeasurement dt : Double F) :
    InBound (f.advance rateMeasurement absoluteMeasurement dt) :=
  stdAbs_clampFinite_le f.params _

/-- New parameters come when the state is within their bound. -/
def AdmitsParams (f : ComplementaryFilter (Double F)) : Event (Double F) → Prop
  | .setParams params => stdAbs f.state ≤ bound params
  | _ => True

/-- An operation ends within the bound, unless it sets parameters whose bound the state
exceeds. -/
theorem inBound_next_iff {f : ComplementaryFilter (Double F)} (h : InBound f)
    (e : Event (Double F)) : InBound (component.next f e) ↔ AdmitsParams f e := by
  cases e with
  | applyConfig cfg => exact iff_of_true h trivial
  | setParams params => exact Iff.rfl
  | reset state => exact iff_of_true (inBound_reset f state) trivial
  | update rate absolute => exact iff_of_true (inBound_advance f rate absolute _) trivial
  | updateTimestamped rate absolute timestampNs =>
      exact iff_of_true (inBound_advance _ rate absolute _) trivial

/-- For every run: the state is within the bound after every operation if and only if every
change of the parameters comes when it is within the new bound. -/
theorem along_inBound_iff (es : List (Event (Double F))) :
    component.Along (fun f e => InBound (component.next f e)) initial es ↔
      component.Along AdmitsParams initial es :=
  Component.along_congr (I := InBound) (fun _ e h => inBound_next_iff h e)
    (fun _ _ _ h => h) inBound_initial es

/-- A state of ten, and then a bound of twenty. -/
theorem along_inBound_reset_setParams :
    component.Along (fun f e => InBound (component.next f e))
      (initial : ComplementaryFilter (ExactDouble ℚ))
      [.reset 10.0, .setParams { maxAbsState := 20.0 }] :=
  (along_inBound_iff _).2 ⟨trivial, by rw [AdmitsParams]; decide +kernel, trivial⟩

/-- Parameters that are set are finite. -/
def FiniteParams : Event (Double F) → Prop
  | .setParams params =>
      isFinite params.alpha = true ∧ isFinite params.maxAbsState = true ∧
        isFinite params.cutoffFrequencyHz = true
  | _ => True

/-- A state of ten, and then a bound of one. -/
theorem not_always_inBound :
    ¬ ∀ es : List (Event (ExactDouble ℚ)), (∀ e ∈ es, FiniteParams e) →
      component.Along (fun f e => InBound (component.next f e)) initial es := by
  intro h
  have hisFinite : ∀ (m : ℕ) (s : Bool) (e : ℕ),
      isFinite (OfScientific.ofScientific m s e : ExactDouble ℚ) = true := by
    intro m s e
    rw [ofScientific_eq_exact, isFinite_exact]
  have hparams : ∀ e ∈ ([.reset 10.0, .setParams { maxAbsState := 1.0 }] :
      List (Event (ExactDouble ℚ))), FiniteParams e := by
    rw [List.forall_mem_cons, List.forall_mem_cons]
    exact ⟨trivial, ⟨hisFinite .., hisFinite .., hisFinite ..⟩, List.forall_mem_nil _⟩
  have hrun : InBound
      ((initial.reset (10.0 : ExactDouble ℚ)).setParams { maxAbsState := 1.0 }) :=
    (h _ hparams).2.1
  rw [InBound] at hrun
  exact absurd hrun (by decide +kernel)

end ComplementaryFilter

end SafetyCore
