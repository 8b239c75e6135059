import Mathlib.Algebra.Order.Ring.Rat
import SafetyCore.Arithmetic.Double
import SafetyCore.Control.SafetyPid

/-!
# Feedforward under a stale localization

The feedforward overload of `compute` adds its terms to whatever the plain
overload returns, the zero of the stale branch included. Under a stale
localization it therefore returns the clamped feedforward, which is zero only if
the feedforward is zero or is dropped because it is not finite.
-/

namespace SafetyCore

open Arithmetic

namespace SafetyPidController

section Double

variable {K : Type*} [Field K] [LinearOrder K] [IsStrictOrderedRing K] {F : Format K}

theorem clampSpeed_eq_zero_iff (c : SafetyPidController (Double F)) (value : Double F) :
    c.clampSpeed value = 0 ↔ value = 0 := by
  unfold clampSpeed
  cases c.config with
  | none => rfl
  | some cfg =>
      dsimp only
      split
      · rfl
      · exact Double.stdClamp_eq_zero_iff ‹_›

/-- For every state and configuration, every setpoint and measurement and every
feedforward: where the localization guard fails, the feedforward overload returns
zero exactly if the feedforward is not finite or adds up to zero. -/
theorem computeFeedforward_stale_eq_zero_iff (c : SafetyPidController (Double F))
    (now nowReset : ℤ) (setpoint measurement ffVelocity ffAcceleration : Double F)
    (h : c.localizationValid now = false) :
    (c.computeFeedforward now nowReset setpoint measurement ffVelocity
        ffAcceleration).2 = 0 ↔
      isFinite ffVelocity = false ∨ isFinite ffAcceleration = false ∨
        ffVelocity + ffAcceleration * c.configuredDt = 0 := by
  unfold computeFeedforward
  rw [compute_of_stale nowReset setpoint measurement h]
  dsimp only
  split
  · rename_i hfinite
    simp only [Bool.or_eq_true, Bool.not_eq_true'] at hfinite
    refine iff_of_true rfl ?_
    rcases hfinite with hv | ha
    · exact .inl hv
    · exact .inr (.inl ha)
  · rename_i hfinite
    simp only [Bool.or_eq_true, Bool.not_eq_true', not_or] at hfinite
    have hdt : ({ c.reset nowReset with
        lastLocalizationUpdate := now } : SafetyPidController (Double F)).configuredDt =
          c.configuredDt := rfl
    rw [clampSpeed_eq_zero_iff, Double.zero_add_eq, hdt]
    simp [hfinite.1, hfinite.2]

end Double

/-- Rationals up to `10 ^ 9` as doubles. -/
abbrev RationalDouble : Type := Double (Format.exact (1000000000 : ℚ) (by decide))

/-- Without any feedforward the stale controller returns zero. -/
theorem computeFeedforward_stale_eq_zero_iff_none :
    (((create 0 0).applyConfig makeConfig 0).1.computeFeedforward 600000000 600000000
        1.0 0 0 (0 : RationalDouble)).2 = 0 ↔
      isFinite (0 : RationalDouble) = false ∨ isFinite (0 : RationalDouble) = false ∨
        (0 : RationalDouble) +
          0 * ((create 0 0).applyConfig makeConfig 0).1.configuredDt = 0 :=
  computeFeedforward_stale_eq_zero_iff ((create 0 0).applyConfig makeConfig 0).1
    600000000 600000000 1.0 0 0 0 (by decide +kernel)

/-- The localization is 0.6 s old and the feedforward velocity is 1 m/s, which is
what the controller returns. -/
theorem computeFeedforward_stale_not_always_zero :
    ¬ ∀ (c : SafetyPidController RationalDouble) (now nowReset : ℤ)
        (setpoint measurement ffVelocity ffAcceleration : RationalDouble),
      c.localizationValid now = false →
      (c.computeFeedforward now nowReset setpoint measurement ffVelocity
        ffAcceleration).2 = 0 := by
  intro h
  have hzero := h ((create 0 0).applyConfig makeConfig 0).1 600000000 600000000 0 0
    1.0 0 (by decide +kernel)
  exact absurd hzero (by decide +kernel)

end SafetyPidController

end SafetyCore
