import SafetyCore.Config.EnvLoader

/-!
# Durations and minus signs

A duration is read as an unsigned 64-bit count and stored as a signed one. A count from
`2 ^ 63` on becomes negative, which no later check lets pass. But a minus sign negates the
number modulo `2 ^ 64` before that, so that digits above `2 ^ 63` come back as a small
positive count.
-/

namespace SafetyCore

open Text

variable {getenv : String → Option (List Char)} {name : String} {fallback d : ℤ}

/-- The variable holds a numeral with a minus sign of a number that the negation takes to a
positive signed count. -/
def WrapsToPositive (getenv : String → Option (List Char)) (name : String) : Prop :=
  ∃ s n, getenv name = some s ∧ IsNumeral true s n ∧ 2 ^ 63 < n ∧ n < 2 ^ 64

/-- The duration is the number that the variable denotes, with its sign, or the default if it
denotes none below `2 ^ 64`. -/
structure Unwrapped (getenv : String → Option (List Char)) (name : String) (fallback d : ℤ) :
    Prop where
  read : ∀ s minus n, getenv name = some s → IsNumeral minus s n → n < 2 ^ 64 →
    d = if minus then -(n : ℤ) else n
  kept : (∀ s minus n, getenv name = some s → IsNumeral minus s n → 2 ^ 64 ≤ n) →
    -2 ^ 63 ≤ fallback → fallback < 2 ^ 63 → d = fallback

theorem Unwrapped.not_wrapsToPositive (h : Unwrapped getenv name fallback d) (hpos : 0 < d) :
    ¬ WrapsToPositive getenv name := by
  rintro ⟨s, n, hs, hn, -, hlt⟩
  have hread := h.read s true n hs hn hlt
  rw [if_pos rfl] at hread
  omega

/-- A positive duration is the number of its variable unless a negation has made it so. -/
theorem unwrapped_of_not_wrapsToPositive (h : ¬ WrapsToPositive getenv name)
    (hpos : 0 < toDuration (readDurationNs getenv name fallback)) :
    Unwrapped getenv name fallback (toDuration (readDurationNs getenv name fallback)) where
  read s minus n hs hn hlt := by
    have hcount := toDuration_of_pos hpos
    have hhalf := two_mul_toDuration_lt (readDurationNs getenv name fallback)
    rw [readDurationNs, readUInt64_of_isNumeral hs hn hlt] at hpos hcount hhalf ⊢
    cases minus with
    | false =>
        rw [hcount, signedValue_false_toNat hlt]
        rfl
    | true =>
        -- The negation is positive, so that the number is above the middle of the range.
        rw [signedValue_true_toNat hlt] at hcount
        have hbig : 2 ^ 63 < n := by omega
        exact absurd ⟨s, n, hs, hn, hbig, hlt⟩ h
  kept hno hlo hhi := by
    rw [readDurationNs, readUInt64_of_no_numeral hno, toDuration_ofInt hlo hhi]

end SafetyCore
