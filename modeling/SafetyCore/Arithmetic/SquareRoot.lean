import Mathlib.Analysis.Real.Sqrt

/-!
# Square roots

`SquareRoot` is `std::sqrt` of an arithmetic. Real numbers have the exact one.
-/

namespace Arithmetic

class SquareRoot (α : Type*) where
  sqrt : α → α

export SquareRoot (sqrt)

noncomputable instance : SquareRoot ℝ := ⟨Real.sqrt⟩

theorem sqrt_eq_realSqrt (x : ℝ) : sqrt x = Real.sqrt x := rfl

end Arithmetic
