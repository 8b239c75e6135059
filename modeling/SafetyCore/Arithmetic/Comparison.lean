import Mathlib.Algebra.Field.Rat
import Mathlib.Algebra.Order.Field.Basic

/-!
# Comparisons of the C++ standard library

`std::max`, `std::min`, `std::clamp` and `std::abs` are written as the standard
defines them, by one or two comparisons with `<`. On a linear order `std::max` is
the maximum; on a type with incomparable values, such as numbers together with a
NaN, the order of the arguments matters and the definitions say how.

`FiniteTest` is `std::isfinite`. Every number of an exact arithmetic is finite.
-/

namespace Arithmetic

class FiniteTest (α : Type*) where
  isFinite : α → Bool

export FiniteTest (isFinite)

instance FiniteTest.ofField {K : Type*} [Field K] : FiniteTest K where
  isFinite _ := true

section Definitions

variable {α : Type*} [LT α] [DecidableLT α]

def stdMax (a b : α) : α := if a < b then b else a

def stdMin (a b : α) : α := if b < a then b else a

def stdClamp (v lo hi : α) : α :=
  if v < lo then lo else if hi < v then hi else v

def stdAbs [Zero α] [Neg α] (a : α) : α := if a < 0 then -a else a

end Definitions

section LinearOrder

variable {α : Type*} [LinearOrder α]

@[simp] theorem stdMax_eq_max (a b : α) : stdMax a b = max a b := by
  unfold stdMax
  split
  · exact (max_eq_right_of_lt ‹_›).symm
  · exact (max_eq_left (not_lt.1 ‹_›)).symm

theorem stdMin_eq_min (a b : α) : stdMin a b = min a b := by
  unfold stdMin
  split
  · exact (min_eq_right_of_lt ‹_›).symm
  · exact (min_eq_left (not_lt.1 ‹_›)).symm

theorem stdClamp_eq_max_min (v : α) {lo hi : α} (h : lo ≤ hi) :
    stdClamp v lo hi = max lo (min v hi) := by
  unfold stdClamp
  split
  case isTrue hlo => rw [min_eq_left (hlo.le.trans h), max_eq_left hlo.le]
  case isFalse hlo =>
    split
    case isTrue hhi => rw [min_eq_right hhi.le, max_eq_right h]
    case isFalse hhi => rw [min_eq_left (not_lt.1 hhi), max_eq_right (not_lt.1 hlo)]

end LinearOrder

theorem stdAbs_eq_abs {K : Type*} [Field K] [LinearOrder K] [IsStrictOrderedRing K] (x : K) :
    stdAbs x = |x| := by
  unfold stdAbs
  split
  · exact (abs_of_neg ‹_›).symm
  · exact (abs_of_nonneg (not_lt.1 ‹_›)).symm

end Arithmetic
