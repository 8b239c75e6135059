import Mathlib.Order.Iterate
import Mathlib.Tactic.Linarith

/-!
# Orbits of clamped affine maps

The map `x ↦ clamp (a * x + k)` with `0 ≤ a` is monotone, so its orbits are monotone. The
clamped fixed point of the affine map is a fixed point of the clamped map, the only one if the
slope is below one, and no orbit passes a fixed point of a monotone map.
-/

namespace Arithmetic

section Order

variable {α : Type*} [LinearOrder α] {g : α → α}

/-- The orbits of a monotone map on a linear order are monotone, up or down. -/
theorem monotone_or_antitone_iterate (hg : Monotone g) (x : α) :
    (Monotone fun n => g^[n] x) ∨ Antitone fun n => g^[n] x := by
  rcases le_total x (g x) with hup | hdown
  · exact .inl (hg.monotone_iterate_of_le_map hup)
  · exact .inr (hg.antitone_iterate_of_map_le hdown)

/-- An orbit below a fixed point stays below it. -/
theorem iterate_le_fixedPoint (hg : Monotone g) {c x : α} (hfix : g c = c) (h : x ≤ c)
    (n : ℕ) : g^[n] x ≤ c := by
  have hle := hg.iterate n h
  rwa [Function.iterate_fixed hfix] at hle

/-- An orbit above a fixed point stays above it. -/
theorem fixedPoint_le_iterate (hg : Monotone g) {c x : α} (hfix : g c = c) (h : c ≤ x)
    (n : ℕ) : c ≤ g^[n] x := by
  have hle := hg.iterate n h
  rwa [Function.iterate_fixed hfix] at hle

end Order

section Clamp

variable {K : Type*} [Field K] [LinearOrder K] {b v w : K}

/-- The value `v`, clamped to `[-b, b]`. -/
def clampSym (b v : K) : K := max (-b) (min v b)

theorem clampSym_monotone (b : K) : Monotone (clampSym b) := fun _ _ h =>
  max_le_max le_rfl (min_le_min h le_rfl)

variable [IsStrictOrderedRing K]

theorem abs_clampSym_le (hb : 0 ≤ b) (v : K) : |clampSym b v| ≤ b := by
  have hneg : -b ≤ b := (neg_nonpos.2 hb).trans hb
  exact abs_le.2 ⟨le_max_left _ _, max_le hneg (min_le_right _ _)⟩

theorem clampSym_of_abs_le (h : |v| ≤ b) : clampSym b v = v := by
  obtain ⟨hlo, hhi⟩ := abs_le.1 h
  rw [clampSym, min_eq_left hhi, max_eq_right hlo]

theorem clampSym_of_le (hb : 0 ≤ b) (h : b ≤ v) : clampSym b v = b := by
  rw [clampSym, min_eq_right h, max_eq_right ((neg_nonpos.2 hb).trans hb)]

theorem clampSym_of_le_neg (hb : 0 ≤ b) (h : v ≤ -b) : clampSym b v = -b := by
  rw [clampSym, min_eq_left (h.trans ((neg_nonpos.2 hb).trans hb)), max_eq_left h]

/-- The clamped fixed point of an affine map is fixed by the clamped map. -/
theorem clampSym_affine_fixed {a k p : K} (hb : 0 ≤ b) (ha : a ≤ 1) (hfix : a * p + k = p) :
    clampSym b (a * clampSym b p + k) = clampSym b p := by
  -- past a bound the affine map leads further out, since `p` lies there
  rcases le_total b p with hhi | hhi
  · rw [clampSym_of_le hb hhi]
    refine clampSym_of_le hb ?_
    have hstep := mul_nonneg (sub_nonneg.2 ha) (sub_nonneg.2 hhi)
    linarith
  · rcases le_total p (-b) with hlo | hlo
    · rw [clampSym_of_le_neg hb hlo]
      refine clampSym_of_le_neg hb ?_
      have hstep := mul_nonneg (sub_nonneg.2 ha) (sub_nonneg.2 hlo)
      linarith
    · rw [clampSym_of_abs_le (abs_le.2 ⟨hlo, hhi⟩), hfix,
        clampSym_of_abs_le (abs_le.2 ⟨hlo, hhi⟩)]

/-- A clamp moves values no further apart. -/
theorem clampSym_sub_le (b : K) (h : v ≤ w) : clampSym b w - clampSym b v ≤ w - v := by
  have hgap : 0 ≤ w - v := sub_nonneg.2 h
  have hmin : min w b ≤ min v b + (w - v) := by
    rw [← min_add_add_right, add_sub_cancel]
    exact min_le_min le_rfl (le_add_of_nonneg_right hgap)
  have hmax : clampSym b w ≤ clampSym b v + (w - v) := by
    refine max_le ?_ (hmin.trans (add_le_add_left (le_max_right _ _) _))
    exact (le_max_left _ _).trans (le_add_of_nonneg_right hgap)
  linarith

/-- A clamped affine map with a slope below one has a single fixed point. -/
theorem clampSym_affine_fixed_unique {a k x y : K} (ha : 0 ≤ a) (hlt : a < 1)
    (hx : clampSym b (a * x + k) = x) (hy : clampSym b (a * y + k) = y) : x = y := by
  wlog hle : x ≤ y generalizing x y
  · exact (this hy hx (le_of_not_ge hle)).symm
  have hmove := clampSym_sub_le b (add_le_add_left (mul_le_mul_of_nonneg_left hle ha) k)
  rw [hx, hy] at hmove
  have hgap : (1 - a) * (y - x) ≤ 0 := by linarith
  have hmet := nonpos_of_mul_nonpos_right hgap (sub_pos.2 hlt)
  exact le_antisymm hle (sub_nonpos.1 hmet)

end Clamp

end Arithmetic
