import SafetyCore.Arithmetic.Comparison

/-!
# Arithmetic with rounding

`OrderedArith` collects what a proof about monotone quantities needs of an
arithmetic: adding a nonpositive number does not increase a number, and products
and negations have the expected sign. Exact arithmetic in an ordered field has
these properties. So has arithmetic that rounds every exact result, as soon as
the rounding is monotone and keeps the numbers of the format: `Rounded R` is the
type of the numbers that the rounding `R` keeps, with the rounded operations.
-/

namespace Arithmetic

/-- The signs and the monotonicity of rounded arithmetic. -/
class OrderedArith (α : Type*) [LinearOrder α] [Zero α] [Add α] [Mul α] [Neg α] :
    Prop where
  add_le_self : ∀ {v d : α}, d ≤ 0 → v + d ≤ v
  mul_le_zero : ∀ {a t : α}, a ≤ 0 → 0 ≤ t → a * t ≤ 0
  neg_le_zero : ∀ {a : α}, 0 ≤ a → -a ≤ 0

instance OrderedArith.ofField {K : Type*} [Field K] [LinearOrder K]
    [IsStrictOrderedRing K] : OrderedArith K where
  add_le_self h := add_le_of_nonpos_right h
  mul_le_zero ha ht := mul_nonpos_of_nonpos_of_nonneg ha ht
  neg_le_zero h := neg_nonpos.2 h

/-- Clamping a positive number to a limit and its negation leaves it as it is where it does
not exceed the limit. -/
theorem stdClamp_neg_eq_self_iff {α : Type*} [LinearOrder α] [Zero α] [Add α] [Mul α] [Neg α]
    [OrderedArith α] {x limit : α} (hx : 0 < x) (hlimit : 0 ≤ limit) :
    stdClamp x (-limit) limit = x ↔ x ≤ limit := by
  have hlow : ¬ x < -limit :=
    not_lt.2 ((OrderedArith.neg_le_zero hlimit).trans hx.le)
  unfold stdClamp
  rw [if_neg hlow]
  split
  next hlt => exact iff_of_false hlt.ne (not_le.2 hlt)
  next hle => exact iff_of_true rfl (not_lt.1 hle)

/-- A rounding of the field `K`: the numbers it keeps are the numbers of the
format it rounds to. -/
structure Rounding (K : Type*) [Field K] [LinearOrder K] where
  round : K → K
  monotone : Monotone round
  idempotent : ∀ x, round (round x) = round x
  round_zero : round 0 = 0

section Rounded

variable {K : Type*} [Field K] [LinearOrder K] (R : Rounding K)

/-- The numbers of the format. -/
def Rounded : Type _ := {x : K // R.round x = x}

namespace Rounded

instance : LinearOrder (Rounded R) :=
  inferInstanceAs (LinearOrder {x : K // R.round x = x})

variable {R}

/-- The exact result `x`, rounded. -/
def ofExact (x : K) : Rounded R := ⟨R.round x, R.idempotent x⟩

instance : Zero (Rounded R) := ⟨⟨0, R.round_zero⟩⟩

instance : Add (Rounded R) := ⟨fun x y => ofExact (x.1 + y.1)⟩

instance : Sub (Rounded R) := ⟨fun x y => ofExact (x.1 - y.1)⟩

instance : Mul (Rounded R) := ⟨fun x y => ofExact (x.1 * y.1)⟩

instance : Div (Rounded R) := ⟨fun x y => ofExact (x.1 / y.1)⟩

instance : Neg (Rounded R) := ⟨fun x => ofExact (-x.1)⟩

instance : OfScientific (Rounded R) :=
  ⟨fun m s e => ofExact (OfScientific.ofScientific m s e)⟩

instance : FiniteTest (Rounded R) := ⟨fun _ => true⟩

theorem ofExact_le {x : K} {y : Rounded R} (h : x ≤ y.1) : ofExact x ≤ y := by
  have hr : R.round x ≤ R.round y.1 := R.monotone h
  rw [y.2] at hr
  exact hr

instance [IsStrictOrderedRing K] : OrderedArith (Rounded R) where
  add_le_self {v d} h := by
    have hd : d.1 ≤ 0 := h
    exact ofExact_le (add_le_of_nonpos_right hd)
  mul_le_zero {a t} ha ht := by
    have ha' : a.1 ≤ 0 := ha
    have ht' : 0 ≤ t.1 := ht
    exact ofExact_le (y := 0) (mul_nonpos_of_nonpos_of_nonneg ha' ht')
  neg_le_zero {a} h := by
    have ha : 0 ≤ a.1 := h
    exact ofExact_le (y := 0) (neg_nonpos.2 ha)

end Rounded

end Rounded

end Arithmetic
