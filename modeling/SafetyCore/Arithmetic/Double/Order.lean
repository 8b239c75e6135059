import SafetyCore.Arithmetic.Double

/-!
# The order of the doubles

Without the NaN the doubles are linearly ordered. The lemmas ask for a number where
that matters: a comparison that holds already tells that both sides are numbers, one
that fails does not. The standard library's `std::max`, `std::min` and `std::clamp` have
their usual bounds on numbers.
-/

namespace Arithmetic

namespace Double

section Order

variable {K : Type*} [Field K] [LinearOrder K] {F : Format K}

/-! ## The cases -/

@[simp] theorem finite_lt_finite {x y : K} {kx ky bx bY} :
    (finite x kx bx : Double F) < finite y ky bY ↔ x < y := decide_eq_true_iff

@[simp] theorem finite_le_finite {x y : K} {kx ky bx bY} :
    (finite x kx bx : Double F) ≤ finite y ky bY ↔ x ≤ y := decide_eq_true_iff

@[simp] theorem infinity_lt_finite {a : Bool} {y : K} {ky bY} :
    (infinity a : Double F) < finite y ky bY ↔ a = true := Iff.rfl

@[simp] theorem infinity_le_finite {a : Bool} {y : K} {ky bY} :
    (infinity a : Double F) ≤ finite y ky bY ↔ a = true := Iff.rfl

@[simp] theorem finite_lt_infinity {x : K} {b : Bool} {kx bx} :
    (finite x kx bx : Double F) < infinity b ↔ b = false := by
  cases b <;> simp [LT.lt, less]

@[simp] theorem finite_le_infinity {x : K} {b : Bool} {kx bx} :
    (finite x kx bx : Double F) ≤ infinity b ↔ b = false := by
  cases b <;> simp [LE.le, lessOrEqual]

@[simp] theorem infinity_lt_infinity {a b : Bool} :
    (infinity a : Double F) < infinity b ↔ a = true ∧ b = false := by
  cases a <;> cases b <;> simp [LT.lt, less]

@[simp] theorem infinity_le_infinity {a b : Bool} :
    (infinity a : Double F) ≤ infinity b ↔ a = true ∨ b = false := by
  cases a <;> cases b <;> simp [LE.le, lessOrEqual]

@[simp] theorem not_nan_lt (x : Double F) : ¬ nan < x := by
  cases x <;> exact Bool.false_ne_true

@[simp] theorem not_lt_nan (x : Double F) : ¬ x < nan := by
  cases x <;> exact Bool.false_ne_true

@[simp] theorem not_nan_le (x : Double F) : ¬ nan ≤ x := by
  cases x <;> exact Bool.false_ne_true

@[simp] theorem not_le_nan (x : Double F) : ¬ x ≤ nan := by
  cases x <;> exact Bool.false_ne_true

/-! ## Numbers -/

variable {x y z : Double F}

theorem ne_nan_of_le (h : x ≤ y) : x ≠ nan ∧ y ≠ nan := by
  constructor <;> rintro rfl
  · exact not_nan_le _ h
  · exact not_le_nan _ h

theorem ne_nan_of_isFinite (h : isFinite x = true) : x ≠ nan := by
  rintro rfl
  cases h

theorem ofExact_ne_nan (x : K) : (ofExact x : Double F) ≠ nan := by
  unfold ofExact
  split
  · exact fun h => by cases h
  · exact fun h => by cases h

theorem zero_ne_nan : (0 : Double F) ≠ nan := ofExact_ne_nan 0

/-- A number that is not finite is an infinity. -/
theorem exists_infinity (hx : x ≠ nan) (h : ¬ isFinite x = true) : ∃ b, x = infinity b := by
  cases x with
  | finite => exact absurd rfl h
  | infinity b => exact ⟨b, rfl⟩
  | nan => exact absurd rfl hx

theorem not_lt (hx : x ≠ nan) (hy : y ≠ nan) : ¬ x < y ↔ y ≤ x := by
  cases x with
  | nan => exact absurd rfl hx
  | finite a _ _ => cases y <;> simp_all
  | infinity a => cases y <;> cases a <;> simp_all

theorem not_le (hx : x ≠ nan) (hy : y ≠ nan) : ¬ x ≤ y ↔ y < x := by
  cases x with
  | nan => exact absurd rfl hx
  | finite a _ _ => cases y <;> simp_all
  | infinity a => cases y <;> cases a <;> simp_all

theorem le_of_lt (h : x < y) : x ≤ y := by
  cases x with
  | nan => exact absurd h (not_nan_lt y)
  | finite a _ _ =>
      cases y <;> simp_all
      exact h.le
  | infinity a => cases y <;> simp_all

theorem le_refl (hx : x ≠ nan) : x ≤ x := by
  cases x <;> simp_all

theorem lt_of_le_of_ne (h : x ≤ y) (hne : x ≠ y) : x < y := by
  cases x with
  | nan => exact absurd h (not_nan_le y)
  | finite a _ _ =>
      cases y <;> simp_all
      exact h.lt_of_ne hne
  | infinity a => cases y <;> cases a <;> simp_all

theorem le_trans (h : x ≤ y) (h' : y ≤ z) : x ≤ z := by
  cases x with
  | nan => exact absurd h (not_nan_le y)
  | finite a _ _ =>
      cases y <;> cases z <;> simp_all
      exact h.trans h'
  | infinity a => cases y <;> cases z <;> cases a <;> simp_all

theorem lt_of_le_of_lt (h : x ≤ y) (h' : y < z) : x < z := by
  obtain ⟨hx, hy⟩ := ne_nan_of_le h
  have hz := (ne_nan_of_le (le_of_lt h')).2
  rw [← not_le hz hx]
  exact fun hle => (not_le hz hy).2 h' (le_trans hle h)

/-- What lies between finite numbers is finite. -/
theorem isFinite_of_le_of_le (hx : isFinite x = true) (hz : isFinite z = true)
    (h : x ≤ y) (h' : y ≤ z) : isFinite y = true := by
  cases y with
  | finite => rfl
  | nan => exact absurd h (not_le_nan x)
  | infinity b =>
      cases x with
      | finite => cases z <;> simp_all [isFinite]
      | infinity => cases hx
      | nan => cases hx

/-! ## Maxima, minima and clamps -/

theorem le_stdMax_left (hx : x ≠ nan) (y : Double F) : x ≤ stdMax x y := by
  unfold stdMax
  split
  · exact le_of_lt ‹_›
  · exact le_refl hx

theorem zero_le_stdMax (x : Double F) : 0 ≤ stdMax 0 x := le_stdMax_left zero_ne_nan x

theorem stdMax_le (hx : x ≤ z) (hy : y ≤ z) : stdMax x y ≤ z := by
  unfold stdMax
  split
  · exact hy
  · exact hx

theorem le_stdMin (hx : z ≤ x) (hy : z ≤ y) : z ≤ stdMin x y := by
  unfold stdMin
  split
  · exact hy
  · exact hx

theorem stdMin_le_left (hx : x ≠ nan) (y : Double F) : stdMin x y ≤ x := by
  unfold stdMin
  split
  · exact le_of_lt ‹_›
  · exact le_refl hx

theorem stdMin_le_right (hx : x ≠ nan) (hy : y ≠ nan) : stdMin x y ≤ y := by
  unfold stdMin
  split
  · exact le_refl hy
  · exact (not_lt hy hx).1 ‹_›

theorem isFinite_stdMax (hx : isFinite x = true) (hy : isFinite y = true) :
    isFinite (stdMax x y) = true := by
  unfold stdMax
  split
  · exact hy
  · exact hx

/-- A number that is clamped to an interval lies in the interval. -/
theorem stdClamp_mem {lo hi : Double F} (hx : x ≠ nan) (h : lo ≤ hi) :
    lo ≤ stdClamp x lo hi ∧ stdClamp x lo hi ≤ hi := by
  obtain ⟨hlo, hhi⟩ := ne_nan_of_le h
  unfold stdClamp
  split
  · exact ⟨le_refl hlo, h⟩
  · split
    · exact ⟨h, le_refl hhi⟩
    · exact ⟨(not_lt hx hlo).1 ‹_›, (not_lt hhi hx).1 ‹_›⟩

/-- A maximum drops a NaN on its right. -/
theorem stdMax_nan_right (x : Double F) : stdMax x nan = x := if_neg (not_lt_nan x)

/-- Clamping does not repair a NaN. -/
theorem stdClamp_nan (lo hi : Double F) : stdClamp nan lo hi = nan := by
  simp [stdClamp]

end Order

section Negation

variable {K : Type*} [Field K] [LinearOrder K] {F : Format K} {x y : Double F}

@[simp] theorem neg_finite {a : K} {ka ba} :
    -(finite a ka ba : Double F) =
      finite (-a) (by rw [F.round_neg, ka]) (by rwa [abs_neg]) := rfl

@[simp] theorem neg_infinity (a : Bool) : -(infinity a : Double F) = infinity !a := rfl

@[simp] theorem neg_nan : -(nan : Double F) = nan := rfl

@[simp] theorem isFinite_neg (x : Double F) : isFinite (-x) = isFinite x := by
  cases x <;> rfl

theorem neg_neg (x : Double F) : -(-x) = x := by
  cases x <;> simp

@[simp] theorem nan_add (x : Double F) : nan + x = nan := by
  cases x <;> rfl

@[simp] theorem add_nan (x : Double F) : x + nan = nan := by
  cases x <;> rfl

@[simp] theorem nan_mul (x : Double F) : nan * x = nan := by
  cases x <;> rfl

@[simp] theorem mul_nan (x : Double F) : x * nan = nan := by
  cases x <;> rfl

@[simp] theorem nan_sub (x : Double F) : nan - x = nan := nan_add (-x)

@[simp] theorem nan_div (x : Double F) : nan / x = nan := by
  cases x <;> rfl

theorem stdAbs_of_nonneg (h : 0 ≤ x) : stdAbs x = x :=
  if_neg ((not_lt (ne_nan_of_le h).2 (ne_nan_of_le h).1).2 h)

/-- Infinite bounds leave an infinity as it is. -/
theorem stdClamp_infinity (a : Bool) :
    stdClamp (infinity a : Double F) (-infinity false) (infinity false) = infinity a := by
  cases a <;> simp [stdClamp]

variable [IsStrictOrderedRing K]

theorem isFinite_zero : isFinite (0 : Double F) = true := by
  rw [zero_eq]
  rfl

theorem neg_le_neg (h : x ≤ y) : -y ≤ -x := by
  cases x with
  | nan => exact absurd h (not_nan_le y)
  | finite a _ _ => cases y <;> simp_all
  | infinity a => cases y <;> simp_all [or_comm]

theorem neg_zero : -(0 : Double F) = 0 := by
  simp [zero_eq]

theorem neg_le_zero (h : 0 ≤ x) : -x ≤ 0 := by
  have hneg := neg_le_neg h
  rwa [neg_zero] at hneg

theorem neg_le_self (h : 0 ≤ x) : -x ≤ x := le_trans (neg_le_zero h) h

theorem stdAbs_zero : stdAbs (0 : Double F) = 0 := stdAbs_of_nonneg zero_le_zero

theorem stdAbs_le {b : Double F} (hlo : -b ≤ x) (hhi : x ≤ b) : stdAbs x ≤ b := by
  unfold stdAbs
  split
  · have h := neg_le_neg hlo
    rwa [neg_neg] at h
  · exact hhi

/-- A number clamped to a symmetric interval. -/
theorem stdAbs_stdClamp_le {b : Double F} (hx : x ≠ nan) (hb : 0 ≤ b) :
    stdAbs (stdClamp x (-b) b) ≤ b := by
  obtain ⟨hlo, hhi⟩ := stdClamp_mem hx (neg_le_self hb)
  exact stdAbs_le hlo hhi

theorem isFinite_stdClamp_neg {b : Double F} (hx : x ≠ nan) (hb : 0 ≤ b)
    (hfinite : isFinite b = true) : isFinite (stdClamp x (-b) b) = true := by
  obtain ⟨hlo, hhi⟩ := stdClamp_mem hx (neg_le_self hb)
  exact isFinite_of_le_of_le (by simpa using hfinite) hfinite hlo hhi

/-- A finite number stays finite. -/
theorem isFinite_stdClamp_neg_of_isFinite {b : Double F} (hx : isFinite x = true)
    (hb : 0 ≤ b) : isFinite (stdClamp x (-b) b) = true := by
  cases b with
  | nan => exact absurd hb (not_le_nan 0)
  | finite => exact isFinite_stdClamp_neg (ne_nan_of_isFinite hx) hb rfl
  | infinity a =>
      -- Nothing finite lies beyond an infinite bound.
      cases x with
      | finite => cases a <;> simp_all [stdClamp, zero_eq]
      | infinity => cases hx
      | nan => cases hx

theorem isFinite_stdMin_iff (hx : 0 ≤ x) (hy : 0 ≤ y) :
    isFinite (stdMin x y) = true ↔ isFinite x = true ∨ isFinite y = true := by
  obtain ⟨hzero, hxNan⟩ := ne_nan_of_le hx
  have hyNan := (ne_nan_of_le hy).2
  have hmin := le_stdMin hx hy
  constructor
  · intro h
    unfold stdMin at h
    split at h
    · exact .inr h
    · exact .inl h
  · rintro (h | h)
    · exact isFinite_of_le_of_le isFinite_zero h hmin (stdMin_le_left hxNan y)
    · exact isFinite_of_le_of_le isFinite_zero h hmin (stdMin_le_right hxNan hyNan)

/-! ## Finite values within a limit -/

/-- Finite, and within the limit. -/
def FiniteWithin (limit x : Double F) : Prop := isFinite x = true ∧ stdAbs x ≤ limit

theorem finiteWithin_zero {limit : Double F} (h : 0 ≤ limit) : FiniteWithin limit 0 := by
  refine ⟨isFinite_zero, ?_⟩
  rw [stdAbs_zero]
  exact h

/-- A clamp to a limit `b` within the limit, exactly. -/
theorem stdClamp_finiteWithin_iff {limit b v : Double F} (hb : 0 ≤ b) (hle : b ≤ limit) :
    FiniteWithin limit (stdClamp v (-b) b) ↔
      v ≠ .nan ∧ (isFinite v = true ∨ isFinite b = true) := by
  constructor
  · rintro ⟨hfinite, -⟩
    have hv : v ≠ .nan := by
      rintro rfl
      rw [stdClamp_nan] at hfinite
      cases hfinite
    refine ⟨hv, ?_⟩
    by_contra hinfinite
    obtain ⟨hv', hb'⟩ := not_or.1 hinfinite
    obtain ⟨s, rfl⟩ := exists_infinity hv hv'
    obtain ⟨t, rfl⟩ := exists_infinity (ne_nan_of_le hb).2 hb'
    rw [zero_eq, finite_le_infinity] at hb
    rw [hb, stdClamp_infinity] at hfinite
    cases hfinite
  · rintro ⟨hv, hfinite⟩
    refine ⟨?_, le_trans (stdAbs_stdClamp_le hv hb) hle⟩
    rcases hfinite with hfinite | hfinite
    · exact isFinite_stdClamp_neg_of_isFinite hfinite hb
    · exact isFinite_stdClamp_neg hv hb hfinite

end Negation

end Double

end Arithmetic
