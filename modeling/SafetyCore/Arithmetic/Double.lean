import Mathlib.Algebra.Order.Monoid.Unbundled.WithTop
import SafetyCore.Arithmetic.Rounding

/-!
# Doubles

A `Double F` is a number of the format `F`, an infinity or a NaN. A format rounds
every exact result symmetrically and has a largest number, beyond which a result
overflows to an infinity; for a format that keeps every number it is `⊤`. Comparisons
with a NaN are false. The format has one zero: the sign of a zero is not modelled, and
a number divided by zero has the sign of the number.
-/

namespace Arithmetic

/-- A symmetric rounding with a largest number. -/
structure Format (K : Type*) [Field K] [LinearOrder K] extends Rounding K where
  round_neg : ∀ x, round (-x) = -round x
  largest : WithTop K
  largest_pos : 0 < largest

/-- The format that keeps every number up to the largest one. -/
def Format.exact {K : Type*} [Field K] [LinearOrder K] (largest : K)
    (largest_pos : 0 < largest) : Format K where
  round := id
  monotone := monotone_id
  idempotent _ := rfl
  round_zero := rfl
  round_neg _ := rfl
  largest := largest
  largest_pos := WithTop.coe_pos.2 largest_pos

/-- The format that keeps every number: exact arithmetic with infinities and NaN. -/
def Format.unbounded (K : Type*) [Field K] [LinearOrder K] : Format K where
  round := id
  monotone := monotone_id
  idempotent _ := rfl
  round_zero := rfl
  round_neg _ := rfl
  largest := ⊤
  largest_pos := WithTop.coe_lt_top 0

section Double

variable {K : Type*} [Field K] [LinearOrder K]

inductive Double (F : Format K)
  | finite (x : K) (kept : F.round x = x) (bounded : ((|x| : K) : WithTop K) ≤ F.largest)
  | infinity (negative : Bool)
  | nan
  deriving DecidableEq

namespace Double

variable {F : Format K}

/-- The exact result `x`, rounded. -/
def ofExact (x : K) : Double F :=
  if h : ((|F.round x| : K) : WithTop K) ≤ F.largest then
    .finite (F.round x) (F.idempotent x) h
  else
    .infinity (F.round x < 0)

instance : Zero (Double F) := ⟨ofExact 0⟩

instance : OfScientific (Double F) :=
  ⟨fun m s e => ofExact (OfScientific.ofScientific m s e)⟩

instance : IntCast (Double F) := ⟨fun n => ofExact n⟩

instance : FiniteTest (Double F) where
  isFinite
    | .finite _ _ _ => true
    | _ => false

/-! ## Operations -/

def add : Double F → Double F → Double F
  | .finite x _ _, .finite y _ _ => ofExact (x + y)
  | .infinity a, .finite _ _ _ => .infinity a
  | .finite _ _ _, .infinity b => .infinity b
  | .infinity a, .infinity b => if a = b then .infinity a else .nan
  | _, _ => .nan

def mul : Double F → Double F → Double F
  | .finite x _ _, .finite y _ _ => ofExact (x * y)
  | .infinity a, .finite y _ _ => if y = 0 then .nan else .infinity (a ^^ y < 0)
  | .finite x _ _, .infinity b => if x = 0 then .nan else .infinity (x < 0 ^^ b)
  | .infinity a, .infinity b => .infinity (a ^^ b)
  | _, _ => .nan

def div : Double F → Double F → Double F
  | .finite x _ _, .finite y _ _ =>
      if y = 0 then (if x = 0 then .nan else .infinity (x < 0)) else ofExact (x / y)
  | .infinity a, .finite y _ _ => .infinity (a ^^ y < 0)
  | .finite _ _ _, .infinity _ => 0
  | _, _ => .nan

instance : Add (Double F) := ⟨add⟩

instance : Mul (Double F) := ⟨mul⟩

instance : Div (Double F) := ⟨div⟩

def less : Double F → Double F → Bool
  | .finite x _ _, .finite y _ _ => x < y
  | .infinity a, .finite _ _ _ => a
  | .finite _ _ _, .infinity b => !b
  | .infinity a, .infinity b => a && !b
  | _, _ => false

def lessOrEqual : Double F → Double F → Bool
  | .finite x _ _, .finite y _ _ => x ≤ y
  | .infinity a, .finite _ _ _ => a
  | .finite _ _ _, .infinity b => !b
  | .infinity a, .infinity b => a || !b
  | _, _ => false

instance : LT (Double F) := ⟨fun x y => x.less y = true⟩

instance : LE (Double F) := ⟨fun x y => x.lessOrEqual y = true⟩

instance : DecidableLT (Double F) := fun x y =>
  inferInstanceAs (Decidable (x.less y = true))

instance : DecidableLE (Double F) := fun x y =>
  inferInstanceAs (Decidable (x.lessOrEqual y = true))

/-! ## Zero -/

theorem ofExact_of_kept {x : K} (kept : F.round x = x)
    (bounded : ((|x| : K) : WithTop K) ≤ F.largest) :
    ofExact x = .finite x kept bounded := by
  unfold ofExact
  simp only [kept, bounded, dif_pos]

theorem zero_bounded [IsStrictOrderedRing K] :
    ((|0| : K) : WithTop K) ≤ F.largest := by
  rw [abs_zero]
  exact F.largest_pos.le

variable [IsStrictOrderedRing K]

theorem zero_eq : (0 : Double F) = .finite 0 F.round_zero zero_bounded :=
  ofExact_of_kept F.round_zero zero_bounded

/-- Adding to zero is exact. -/
theorem zero_add_eq (x : Double F) : 0 + x = x := by
  rw [zero_eq]
  cases x with
  | finite x kept bounded =>
      change ofExact (0 + x) = _
      rw [zero_add, ofExact_of_kept kept bounded]
  | infinity a => rfl
  | nan => rfl

def neg : Double F → Double F
  | .finite x kept bounded =>
      .finite (-x) (by rw [F.round_neg, kept]) (by rwa [abs_neg])
  | .infinity a => .infinity !a
  | .nan => .nan

instance : Neg (Double F) := ⟨neg⟩

instance : Sub (Double F) := ⟨fun x y => x + -y⟩

theorem zero_le_zero : (0 : Double F) ≤ 0 := by
  rw [zero_eq]
  exact decide_eq_true le_rfl

theorem le_zero_of_lt {x : Double F} (h : x < 0) : x ≤ 0 := by
  rw [zero_eq] at h ⊢
  cases x with
  | finite x kept bounded =>
      have hx : x < 0 := of_decide_eq_true h
      exact decide_eq_true hx.le
  | infinity a => exact h
  | nan => exact h

theorem le_zero_of_zero_lt_neg {x : Double F} (h : 0 < -x) : x ≤ 0 := by
  rw [zero_eq] at h ⊢
  cases x with
  | finite x kept bounded =>
      have hx : 0 < -x := of_decide_eq_true h
      exact decide_eq_true (neg_pos.1 hx).le
  | infinity a =>
      cases a with
      | false => exact absurd (show false = true from h) (by decide)
      | true => rfl
  | nan => exact absurd (show false = true from h) (by decide)

theorem le_zero_of_neg_eq_zero {x : Double F} (h : -x = 0) : x ≤ 0 := by
  rw [zero_eq] at h ⊢
  cases x with
  | finite x kept bounded =>
      have hx : -x = 0 := Double.finite.inj h
      exact decide_eq_true (neg_eq_zero.1 hx).le
  | infinity a => cases h
  | nan => cases h

/-- Clamping to an interval around zero makes nothing zero that was not. -/
theorem stdClamp_eq_zero_iff {x limit : Double F} (h : ¬ limit ≤ 0) :
    stdClamp x (-limit) limit = 0 ↔ x = 0 := by
  unfold stdClamp
  split
  · rename_i hlo
    refine iff_of_false (fun hlimit => h (le_zero_of_neg_eq_zero hlimit)) ?_
    rintro rfl
    exact h (le_zero_of_zero_lt_neg hlo)
  · split
    · rename_i hhi
      refine iff_of_false (fun hlimit => h (hlimit ▸ zero_le_zero)) ?_
      rintro rfl
      exact h (le_zero_of_lt hhi)
    · rfl

end Double

end Double

end Arithmetic
