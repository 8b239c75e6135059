import Mathlib.Analysis.Complex.Trigonometric

/-!
# Trigonometric functions

`Trigonometry` is `std::cos` and `std::sin` of an arithmetic. Real numbers have the exact
ones.
-/

namespace Arithmetic

class Trigonometry (α : Type*) where
  cos : α → α
  sin : α → α

export Trigonometry (cos sin)

noncomputable instance : Trigonometry ℝ := ⟨Real.cos, Real.sin⟩

end Arithmetic
