import Mathlib.Algebra.Order.Star.Real
import Mathlib.Analysis.Matrix.PosDef

/-!
# Scaling the diagonal of a covariance

A factor on the diagonal alone keeps every covariance matrix one exactly if the factor is at least
one. It then only adds uncertainty.
-/

namespace Arithmetic

open Matrix

variable {n : Type*} [DecidableEq n] {m : ℝ} {C : Matrix n n ℝ}

def scaleDiagonal (m : ℝ) (C : Matrix n n ℝ) : Matrix n n ℝ :=
  .of fun i j => if i = j then C i j * m else C i j

theorem scaleDiagonal_sub (m : ℝ) (C : Matrix n n ℝ) :
    scaleDiagonal m C - C = diagonal fun i => (m - 1) * C i i := by
  ext i j
  by_cases hij : i = j
  · subst hij
    simp [scaleDiagonal]
    ring
  · simp [scaleDiagonal, hij]

/-- What is added has no negative entry on the diagonal, and none beside it. -/
theorem posSemidef_scaleDiagonal_sub (hm : 1 ≤ m) (hC : C.PosSemidef) :
    (scaleDiagonal m C - C).PosSemidef := by
  rw [scaleDiagonal_sub]
  exact .diagonal fun i => mul_nonneg (sub_nonneg.2 hm) hC.diag_nonneg

theorem posSemidef_scaleDiagonal (hm : 1 ≤ m) (hC : C.PosSemidef) :
    (scaleDiagonal m C).PosSemidef := by
  have hadd := (posSemidef_scaleDiagonal_sub hm hC).add hC
  rwa [sub_add_cancel] at hadd

/-- Fully correlated components are the covariance that a smaller factor destroys. -/
theorem one_le_of_posSemidef_scaleDiagonal [Nontrivial n]
    (h : (scaleDiagonal m (vecMulVec (1 : n → ℝ) (star 1))).PosSemidef) : 1 ≤ m := by
  obtain ⟨i, j, hij⟩ := exists_pair_ne n
  have hm : 0 ≤ m := by
    have hdiag := h.diag_nonneg (i := i)
    simpa [scaleDiagonal, vecMulVec_apply] using hdiag
  have hdet := (h.submatrix ![i, j]).det_nonneg
  have hminor : ((scaleDiagonal m (vecMulVec 1 (star 1))).submatrix ![i, j] ![i, j]).det =
      m * m - 1 := by
    rw [det_fin_two]
    simp [scaleDiagonal, vecMulVec_apply, hij, hij.symm]
  rw [hminor] at hdet
  nlinarith

end Arithmetic
