import Mathlib.Algebra.Order.Field.Basic
import Mathlib.Tactic.NormNum.OfScientific
import SafetyCore.Arithmetic.SquareRoot

/-!
# Readings of the localization scripts

What the scripts of the bringup package compute from a message or from the clock: the length of a
vector, and the seconds since an earlier time point. Time points are counts of nanoseconds.
-/

namespace SafetyCore

open Arithmetic

/-- The first two components of a vector. -/
structure Planar (α : Type*) where
  x : α
  y : α
  deriving DecidableEq, Repr

/-- `math.sqrt(x**2 + y**2)`. -/
def Planar.norm {α : Type*} [Add α] [Mul α] [SquareRoot α] (v : Planar α) : α :=
  sqrt (v.x * v.x + v.y * v.y)

/-- `DiagnosticStatus.level` -/
inductive DiagnosticLevel
  | ok
  | warn
  | error
  deriving DecidableEq, Repr

/-- `(now - earlier).nanoseconds / 1e9`. -/
def secondsSince {α : Type*} [IntCast α] [Div α] [OfScientific α] (earlier now : ℤ) : α :=
  ((now - earlier : ℤ) : α) / 1e9

theorem secondsSince_le {K : Type*} [Field K] [LinearOrder K] [IsStrictOrderedRing K]
    (earlier : ℤ) {now later : ℤ} (h : now ≤ later) :
    (secondsSince earlier now : K) ≤ secondsSince earlier later := by
  have hcast : ((now - earlier : ℤ) : K) ≤ ((later - earlier : ℤ) : K) :=
    Int.cast_le.2 (sub_le_sub_right h earlier)
  exact div_le_div_of_nonneg_right hcast (by norm_num)

end SafetyCore
