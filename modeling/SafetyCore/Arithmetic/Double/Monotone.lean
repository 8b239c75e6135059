import SafetyCore.Arithmetic.Double.Order

/-!
# Signs of rounded results

The rounding of a double is monotone and keeps the numbers of the format, and an overflow
goes to the infinity of the right sign. So a result lies on the side of a number on which
the exact result lies.
-/

namespace Arithmetic

namespace Double

variable {K : Type*} [Field K] [LinearOrder K] [IsStrictOrderedRing K] {F : Format K}

theorem ofExact_le_finite {x y : K} {ky : F.round y = y}
    {bY : ((|y| : K) : WithTop K) ≤ F.largest} (h : x ≤ y) :
    (ofExact x : Double F) ≤ finite y ky bY := by
  have hround : F.round x ≤ y := ky ▸ F.monotone h
  unfold ofExact
  split
  · exact finite_le_finite.2 hround
  next hover =>
    -- An overflow below a number of the format is negative.
    rw [infinity_le_finite, decide_eq_true_eq]
    by_contra hneg
    refine hover ((WithTop.coe_le_coe.2 ?_).trans bY)
    rw [abs_of_nonneg (le_of_not_gt hneg)]
    exact hround.trans (le_abs_self y)

theorem finite_le_ofExact {x y : K} {kx : F.round x = x}
    {bx : ((|x| : K) : WithTop K) ≤ F.largest} (h : x ≤ y) :
    finite x kx bx ≤ (ofExact y : Double F) := by
  have hround : x ≤ F.round y := kx ▸ F.monotone h
  unfold ofExact
  split
  · exact finite_le_finite.2 hround
  next hover =>
    rw [finite_le_infinity, decide_eq_false_iff_not]
    intro hneg
    refine hover ((WithTop.coe_le_coe.2 ?_).trans bx)
    rw [abs_of_neg hneg, abs_of_neg (hround.trans_lt hneg)]
    exact neg_le_neg_iff.2 hround

variable {x y : Double F}

theorem zero_le_ofExact {a : K} (h : 0 ≤ a) : (0 : Double F) ≤ ofExact a := by
  rw [zero_eq]
  exact finite_le_ofExact h

/-! ## Sums -/

theorem add_le_self (hx : isFinite x = true) (hy : y ≤ 0) : x + y ≤ x := by
  rw [zero_eq] at hy
  cases x with
  | finite a _ _ =>
      cases y with
      | finite b _ _ => exact ofExact_le_finite (add_le_of_nonpos_right (finite_le_finite.1 hy))
      | infinity b => exact infinity_le_finite.2 (infinity_le_finite.1 hy)
      | nan => exact absurd hy (not_nan_le _)
  | infinity a => cases hx
  | nan => cases hx

theorem le_add_self (hx : isFinite x = true) (hy : 0 ≤ y) : x ≤ x + y := by
  rw [zero_eq] at hy
  cases x with
  | finite a _ _ =>
      cases y with
      | finite b _ _ =>
          exact finite_le_ofExact (le_add_of_nonneg_right (finite_le_finite.1 hy))
      | infinity b => exact finite_le_infinity.2 (finite_le_infinity.1 hy)
      | nan => exact absurd hy (not_le_nan _)
  | infinity a => cases hx
  | nan => cases hx

/-! ## Products -/

theorem mul_le_zero (hx : isFinite x = true) (hx0 : x ≤ 0) (hy : isFinite y = true)
    (hy0 : 0 ≤ y) : x * y ≤ 0 := by
  rw [zero_eq] at *
  cases x with
  | finite a _ _ =>
      cases y with
      | finite b _ _ =>
          exact ofExact_le_finite (mul_nonpos_of_nonpos_of_nonneg (finite_le_finite.1 hx0)
            (finite_le_finite.1 hy0))
      | infinity b => cases hy
      | nan => cases hy
  | infinity a => cases hx
  | nan => cases hx

theorem zero_le_mul (hx : isFinite x = true) (hx0 : 0 ≤ x) (hy : isFinite y = true)
    (hy0 : 0 ≤ y) : 0 ≤ x * y := by
  rw [zero_eq] at *
  cases x with
  | finite a _ _ =>
      cases y with
      | finite b _ _ =>
          exact finite_le_ofExact (mul_nonneg (finite_le_finite.1 hx0) (finite_le_finite.1 hy0))
      | infinity b => cases hy
      | nan => cases hy
  | infinity a => cases hx
  | nan => cases hx

end Double

end Arithmetic
