import SafetyCore.Arithmetic.Comparison
import SafetyCore.Config.SystemConfig
import SafetyCore.Text.Conversion.Numeral

/-!
# The configuration from the environment

`loadFromEnv` overwrites the defaults with the variables that hold numbers. `getenv` is
the environment and `strtod` the conversion of the C library, for which any function
may stand. A duration goes through the unsigned 64-bit type and back.
-/

namespace SafetyCore

open Arithmetic Text

section Environment

variable (getenv : String → Option (List Char))

def readUInt64 (name : String) (fallback : UInt64) : UInt64 :=
  match getenv name with
  | none => fallback
  | some value =>
      let parsed := strtoull value
      if parsed.rest ≠ value ∧ parsed.rest = [] ∧ parsed.erange = false then
        if parsed.value ≤ 18446744073709551615 then parsed.value else fallback
      else fallback

def readUInt64Bounded (name : String) (fallback minValue maxValue : UInt64) : UInt64 :=
  let parsed := readUInt64 getenv name fallback
  if parsed < minValue ∨ maxValue < parsed then fallback else parsed

/-- The count of nanoseconds that is read for a duration, before it is stored. -/
def readDurationNs (name : String) (count : ℤ) : UInt64 :=
  readUInt64 getenv name (UInt64.ofInt count)

variable {α : Type*} [FiniteTest α] (strtod : List Char → Conversion α)

def readDouble (name : String) (fallback : α) : α :=
  match getenv name with
  | none => fallback
  | some value =>
      let parsed := strtod value
      if parsed.rest ≠ value ∧ parsed.rest = [] ∧ parsed.erange = false ∧
          isFinite parsed.value = true then
        parsed.value
      else fallback

/-- `time::Duration(ns)`: the count is signed. -/
def toDuration (ns : UInt64) : ℤ := ns.toInt64.toInt

def loadFromEnv (defaults : SystemConfig α) : SystemConfig α where
  configVersion :=
    (readUInt64Bounded getenv "SAFETY_CORE_CONFIG_VERSION" defaults.configVersion.toUInt64
      0 65535).toUInt16
  maxTasks :=
    (readUInt64Bounded getenv "SAFETY_CORE_MAX_TASKS" defaults.maxTasks.toUInt64 0
      255).toUInt8
  timing :=
    { controlPeriod := toDuration
        (readDurationNs getenv "SAFETY_CORE_CONTROL_PERIOD_NS" defaults.timing.controlPeriod)
      watchdogPeriod := toDuration
        (readDurationNs getenv "SAFETY_CORE_WATCHDOG_PERIOD_NS"
          defaults.timing.watchdogPeriod)
      localizationTimeout := toDuration
        (readDurationNs getenv "SAFETY_CORE_LOCALIZATION_TIMEOUT_NS"
          defaults.timing.localizationTimeout) }
  envelope :=
    { maxSpeedMps :=
        readDouble getenv strtod "SAFETY_CORE_MAX_SPEED_MPS" defaults.envelope.maxSpeedMps
      maxAccelMps2 :=
        readDouble getenv strtod "SAFETY_CORE_MAX_ACCEL_MPS2" defaults.envelope.maxAccelMps2
      maxComfortDecelMps2 :=
        readDouble getenv strtod "SAFETY_CORE_MAX_DECEL_MPS2"
          defaults.envelope.maxComfortDecelMps2
      controlLatencyS :=
        readDouble getenv strtod "SAFETY_CORE_CONTROL_LATENCY_S"
          defaults.envelope.controlLatencyS
      safetyBufferM :=
        readDouble getenv strtod "SAFETY_CORE_SAFETY_BUFFER_M"
          defaults.envelope.safetyBufferM }

end Environment

/-! ## Numbers -/

section Reading

variable {getenv : String → Option (List Char)} {name : String} {s : List Char}

theorem readUInt64_of_complete (hs : getenv name = some s) (h : (strtoull s).Complete s)
    (fallback : UInt64) : readUInt64 getenv name fallback = (strtoull s).value := by
  have hmax : (strtoull s).value ≤ 18446744073709551615 := by
    rw [UInt64.le_iff_toNat_le]
    exact Nat.le_of_lt_succ (strtoull s).value.toNat_lt
  unfold readUInt64
  rw [hs]
  exact (if_pos h).trans (if_pos hmax)

theorem readUInt64_of_not_complete (hs : getenv name = some s)
    (h : ¬ (strtoull s).Complete s) (fallback : UInt64) :
    readUInt64 getenv name fallback = fallback := by
  unfold readUInt64
  rw [hs]
  exact if_neg h

/-- A numeral of a number below `2 ^ 64` is taken over with its sign. -/
theorem readUInt64_of_isNumeral (hs : getenv name = some s) {minus : Bool} {n : ℕ}
    (h : IsNumeral minus s n) (hlt : n < 2 ^ 64) (fallback : UInt64) :
    readUInt64 getenv name fallback = signedValue minus n := by
  obtain ⟨hiff, hvalue⟩ := strtoull_of_isNumeral h
  rw [readUInt64_of_complete hs (hiff.2 hlt), hvalue hlt]

/-- Without one the fallback stays. -/
theorem readUInt64_of_no_numeral
    (h : ∀ s minus n, getenv name = some s → IsNumeral minus s n → 2 ^ 64 ≤ n)
    (fallback : UInt64) : readUInt64 getenv name fallback = fallback := by
  cases hs : getenv name with
  | none =>
      unfold readUInt64
      rw [hs]
  | some s =>
      refine readUInt64_of_not_complete hs (fun hc => ?_) fallback
      obtain ⟨minus, n, hn⟩ := exists_isNumeral_of_complete hc
      exact absurd ((strtoull_of_isNumeral hn).1.1 hc) (not_lt.2 (h s minus n hs hn))

end Reading

/-! ## Durations -/

/-- From the middle of the unsigned range on, a count becomes negative. -/
theorem toDuration_eq (ns : UInt64) :
    toDuration ns =
      if 2 * ns.toNat < 2 ^ 64 then (ns.toNat : ℤ) else ns.toNat - (2 ^ 64 : ℕ) :=
  BitVec.toInt_eq_toNat_cond ns.toBitVec

/-- A count that is positive as a signed one is the unsigned count. -/
theorem toDuration_of_pos {ns : UInt64} (h : 0 < toDuration ns) :
    toDuration ns = ns.toNat := by
  have hlt := ns.toNat_lt
  rw [toDuration_eq] at h ⊢
  split at h
  next hsmall => exact if_pos hsmall
  next => omega

theorem two_mul_toDuration_lt (ns : UInt64) : 2 * toDuration ns < 2 ^ 64 :=
  BitVec.two_mul_toInt_lt

/-- A duration is stored as a signed count and read back as the unsigned one. -/
theorem ofInt_toDuration (ns : UInt64) : UInt64.ofInt (toDuration ns) = ns := by
  have hlt := ns.toNat_lt
  have hmod : (toDuration ns % 2 ^ 64).toNat = ns.toNat := by
    rw [toDuration_eq]
    split <;> omega
  unfold UInt64.ofInt
  rw [hmod, UInt64.ofNat_toNat]

/-- A signed count comes back from the unsigned one. -/
theorem toDuration_ofInt {count : ℤ} (hlo : -2 ^ 63 ≤ count) (hhi : count < 2 ^ 63) :
    toDuration (UInt64.ofInt count) = count := by
  have hnat : (UInt64.ofInt count).toNat = (count % 2 ^ 64).toNat := by
    rw [UInt64.ofInt, UInt64.toNat_ofNat']
    omega
  rw [toDuration_eq, hnat]
  split <;> omega

end SafetyCore
