import SafetyCore.Arithmetic.Double.Order

/-!
# Exact arithmetic with infinities and NaN

In the unbounded format the finite numbers are those of the field, with its operations:
`exact` embeds them. So every computation from finite numbers is finite, a division by
zero apart.
-/

namespace Arithmetic

/-- The numbers of `K`, infinities and a NaN. -/
abbrev ExactDouble (K : Type*) [Field K] [LinearOrder K] : Type _ :=
  Double (Format.unbounded K)

namespace Double

section Unbounded

variable {K : Type*} [Field K] [LinearOrder K]

/-- A number of the field. -/
def exact (a : K) : ExactDouble K := .finite a rfl le_top

@[simp] theorem ofExact_eq_exact (a : K) :
    (ofExact a : ExactDouble K) = exact a := dif_pos le_top

@[simp] theorem isFinite_exact (a : K) : isFinite (exact a) = true := rfl

@[simp] theorem exact_ne_nan (a : K) : exact a ≠ nan := by
  simp [exact]

theorem exists_exact {x : ExactDouble K} (h : isFinite x = true) :
    ∃ a, x = exact a := by
  cases x with
  | finite a _ _ => exact ⟨a, rfl⟩
  | infinity a => cases h
  | nan => cases h

theorem exact_injective : Function.Injective (exact (K := K)) := fun _ _ h =>
  finite.inj h

@[simp] theorem exact_add (a b : K) : exact a + exact b = exact (a + b) :=
  ofExact_eq_exact (a + b)

@[simp] theorem exact_mul (a b : K) : exact a * exact b = exact (a * b) :=
  ofExact_eq_exact (a * b)

@[simp] theorem exact_neg (a : K) : -exact a = exact (-a) := rfl

@[simp] theorem exact_sub (a b : K) : exact a - exact b = exact (a - b) := by
  rw [sub_eq_add_neg a b, ← exact_add]
  rfl

theorem exact_div (a : K) {b : K} (hb : b ≠ 0) : exact a / exact b = exact (a / b) := by
  rw [← ofExact_eq_exact (a / b)]
  exact if_neg hb

@[simp] theorem exact_lt_exact {a b : K} : exact a < exact b ↔ a < b := finite_lt_finite

@[simp] theorem exact_le_exact {a b : K} : exact a ≤ exact b ↔ a ≤ b := finite_le_finite

theorem zero_eq_exact : (0 : ExactDouble K) = exact 0 :=
  ofExact_eq_exact 0

theorem zero_lt_exact {a : K} : (0 : ExactDouble K) < exact a ↔ 0 < a := by
  rw [zero_eq_exact, exact_lt_exact]

theorem exact_ne_zero {a : K} : exact a ≠ 0 ↔ a ≠ 0 := by
  rw [zero_eq_exact, exact_injective.ne_iff]

theorem intCast_eq_exact (n : ℤ) : (n : ExactDouble K) = exact (n : K) :=
  ofExact_eq_exact (n : K)

theorem ofScientific_eq_exact (m : ℕ) (s : Bool) (e : ℕ) :
    (OfScientific.ofScientific m s e : ExactDouble K) =
      exact (OfScientific.ofScientific m s e) :=
  ofExact_eq_exact _

@[simp] theorem stdMax_exact (a b : K) : stdMax (exact a) (exact b) = exact (max a b) := by
  simp only [stdMax, exact_lt_exact]
  split
  · rw [max_eq_right_of_lt ‹_›]
  · rw [max_eq_left (le_of_not_gt ‹_›)]

/-! ## Infinities -/

@[simp] theorem exact_add_infinity (a : K) (b : Bool) :
    exact a + infinity b = infinity b := rfl

@[simp] theorem infinity_add_exact (a : Bool) (b : K) :
    infinity a + exact b = infinity a := rfl

@[simp] theorem infinity_add_self (a : Bool) :
    (infinity a : ExactDouble K) + infinity a = infinity a := if_pos rfl

/-- Infinities of different signs have no sum. -/
theorem infinity_add_infinity {a b : Bool} (h : a ≠ b) :
    (infinity a : ExactDouble K) + infinity b = nan := if_neg h

theorem infinity_sub_self (a : Bool) : (infinity a : ExactDouble K) - infinity a = nan :=
  infinity_add_infinity (Bool.not_ne_self a).symm

@[simp] theorem exact_sub_infinity (a : K) (b : Bool) :
    exact a - infinity b = infinity !b := rfl

@[simp] theorem infinity_sub_exact (a : Bool) (b : K) :
    infinity a - exact b = infinity a := rfl

theorem infinity_sub_infinity {a b : Bool} (h : a ≠ b) :
    (infinity a : ExactDouble K) - infinity b = infinity a :=
  if_pos (Bool.eq_not.2 h)

theorem exact_mul_infinity {a : K} (ha : a ≠ 0) (b : Bool) :
    exact a * infinity b = infinity (decide (a < 0) ^^ b) := if_neg ha

/-- Zero and an infinity have no product. -/
theorem zero_mul_infinity (b : Bool) : (0 : ExactDouble K) * infinity b = nan := by
  rw [zero_eq_exact]
  exact if_pos rfl

theorem infinity_mul_exact (a : Bool) {b : K} (hb : b ≠ 0) :
    infinity a * exact b = infinity (a ^^ decide (b < 0)) := if_neg hb

@[simp] theorem infinity_div_exact (a : Bool) (b : K) :
    infinity a / exact b = infinity (a ^^ decide (b < 0)) := rfl

theorem infinity_div_of_pos (a : Bool) {b : K} (hb : 0 < b) :
    (infinity a : ExactDouble K) / exact b = infinity a := by
  rw [infinity_div_exact, decide_eq_false hb.not_gt, Bool.xor_false]

/-! ## Finite computations -/

variable {x y : ExactDouble K}

theorem isFinite_add (hx : isFinite x = true) (hy : isFinite y = true) :
    isFinite (x + y) = true := by
  obtain ⟨a, rfl⟩ := exists_exact hx
  obtain ⟨b, rfl⟩ := exists_exact hy
  simp

theorem isFinite_sub (hx : isFinite x = true) (hy : isFinite y = true) :
    isFinite (x - y) = true := by
  obtain ⟨a, rfl⟩ := exists_exact hx
  obtain ⟨b, rfl⟩ := exists_exact hy
  simp

theorem isFinite_mul (hx : isFinite x = true) (hy : isFinite y = true) :
    isFinite (x * y) = true := by
  obtain ⟨a, rfl⟩ := exists_exact hx
  obtain ⟨b, rfl⟩ := exists_exact hy
  simp

theorem isFinite_div (hx : isFinite x = true) (hy : isFinite y = true) (hzero : y ≠ 0) :
    isFinite (x / y) = true := by
  obtain ⟨a, rfl⟩ := exists_exact hx
  obtain ⟨b, rfl⟩ := exists_exact hy
  rw [exact_div a fun hb => hzero (by rw [hb, zero_eq_exact])]
  rfl

end Unbounded

end Double

end Arithmetic
