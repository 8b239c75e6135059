import Mathlib.Algebra.Order.Ring.Int
import Mathlib.Tactic.NormNum

/-!
# Signed 64-bit results

Signed arithmetic has no result outside the range of its type. `checked x` is the
result `x` of a signed 64-bit operation, if there is one.
-/

namespace Arithmetic

def int64Max : ℤ := 2 ^ 63 - 1

def InInt64 (x : ℤ) : Prop := -2 ^ 63 ≤ x ∧ x ≤ int64Max

instance (x : ℤ) : Decidable (InInt64 x) := inferInstanceAs (Decidable (_ ∧ _))

def checked (x : ℤ) : Option ℤ := if InInt64 x then some x else none

theorem checked_of_inInt64 {x : ℤ} (h : InInt64 x) : checked x = some x := if_pos h

/-- Between two numbers of the range, zero included, lies the range. -/
theorem inInt64_of_nonneg {x : ℤ} (h : 0 ≤ x) (hx : x ≤ int64Max) : InInt64 x :=
  ⟨by omega, hx⟩

end Arithmetic
