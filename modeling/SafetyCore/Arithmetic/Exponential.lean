import Mathlib.Analysis.SpecialFunctions.Exp

/-!
# Exponentials

`Exponential` is `std::exp` of an arithmetic. Real numbers have the exact one.
-/

namespace Arithmetic

class Exponential (α : Type*) where
  exp : α → α

export Exponential (exp)

noncomputable instance : Exponential ℝ := ⟨Real.exp⟩

end Arithmetic
