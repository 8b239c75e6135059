import Mathlib.Algebra.Group.Nat.Defs
import Mathlib.Tactic.Common

/-!
# Ages of timestamps

Timestamps and clock readings are unsigned 64-bit counts of nanoseconds, and
`calculate_age_ns` subtracts them modulo `2 ^ 64`. The age is the true one when
the timestamp does not lie in the future; otherwise it is `2 ^ 64` minus the
distance to the future timestamp.
-/

namespace SafetyCore

namespace TimeUtils

def calculateAgeNs (timestampNs currentTimeNs : UInt64) : UInt64 :=
  currentTimeNs - timestampNs

def isStale (timestampNs currentTimeNs timeoutNs : UInt64) : Bool :=
  calculateAgeNs timestampNs currentTimeNs > timeoutNs

theorem calculateAgeNs_toNat_of_le {timestampNs currentTimeNs : UInt64}
    (h : timestampNs ≤ currentTimeNs) :
    (calculateAgeNs timestampNs currentTimeNs).toNat =
      currentTimeNs.toNat - timestampNs.toNat :=
  UInt64.toNat_sub_of_le _ _ h

theorem calculateAgeNs_toNat_of_lt {timestampNs currentTimeNs : UInt64}
    (h : currentTimeNs < timestampNs) :
    (calculateAgeNs timestampNs currentTimeNs).toNat =
      2 ^ 64 - (timestampNs.toNat - currentTimeNs.toNat) := by
  have hlt : currentTimeNs.toNat < timestampNs.toNat := UInt64.lt_iff_toNat_lt.1 h
  have hbound : timestampNs.toNat < 2 ^ 64 := timestampNs.toNat_lt
  rw [calculateAgeNs, UInt64.toNat_sub]
  omega

/-- Below `2 ^ 63`, what is not stale does not lie in the future, and it is not older than the
timeout. -/
theorem age_of_not_isStale {timestampNs currentTimeNs timeoutNs : UInt64}
    (htimestamp : timestampNs.toNat < 2 ^ 63) (htimeout : timeoutNs.toNat < 2 ^ 63)
    (h : isStale timestampNs currentTimeNs timeoutNs = false) :
    timestampNs.toNat ≤ currentTimeNs.toNat ∧
      currentTimeNs.toNat - timestampNs.toNat ≤ timeoutNs.toNat := by
  have hage : (calculateAgeNs timestampNs currentTimeNs).toNat ≤ timeoutNs.toNat := by
    rw [isStale, decide_eq_false_iff_not, gt_iff_lt, UInt64.not_lt] at h
    exact UInt64.le_iff_toNat_le.1 h
  rcases UInt64.le_or_lt timestampNs currentTimeNs with hle | hlt
  · rw [calculateAgeNs_toNat_of_le hle] at hage
    exact ⟨UInt64.le_iff_toNat_le.1 hle, hage⟩
  · rw [calculateAgeNs_toNat_of_lt hlt] at hage
    omega

end TimeUtils

end SafetyCore
