import Mathlib.Tactic.NormNum
import SafetyCore.Arithmetic.Comparison
import SafetyCore.Config.SystemConfig

/-!
# Validation of a configuration

`validate` goes through its checks in order and reports the first that fails. A
configuration that passes is `Accepted`, whatever the policy; the policy only
decides about a buffer of zero.
-/

namespace SafetyCore

open Arithmetic

inductive ValidationPolicy
  | strict
  | allowWarnings
  deriving DecidableEq, Repr

structure ValidationResult where
  ok : Bool := true
  warning : Bool := false
  message : String := ""
  deriving DecidableEq, Repr

namespace ValidationResult

def success : ValidationResult := {}

def warn (msg : String) : ValidationResult := ⟨true, true, msg⟩

def error (msg : String) : ValidationResult := ⟨false, false, msg⟩

@[simp] theorem success_ok : success.ok = true := rfl

@[simp] theorem warn_ok (msg : String) : (warn msg).ok = true := rfl

@[simp] theorem error_ok (msg : String) : (error msg).ok = false := rfl

/-- A chain of checks passes exactly if every check does. -/
theorem ite_error_ok (c : Prop) [Decidable c] (msg : String) (r : ValidationResult) :
    (if c then error msg else r).ok = true ↔ ¬ c ∧ r.ok = true := by
  by_cases hc : c <;> simp [hc]

end ValidationResult

section Validate

variable {α : Type*} [Zero α] [OfScientific α] [LT α] [DecidableLT α] [LE α]
  [DecidableLE α] [DecidableEq α] [FiniteTest α]

/-- The values of the envelope are finite. -/
def MotionEnvelopeConfig.finite (envelope : MotionEnvelopeConfig α) : Bool :=
  isFinite envelope.maxSpeedMps && isFinite envelope.maxAccelMps2 &&
    isFinite envelope.maxComfortDecelMps2 && isFinite envelope.controlLatencyS &&
    isFinite envelope.safetyBufferM

/-- 1 ms. -/
def kMinControlPeriod : ℤ := 1000000

def validate (cfg : SystemConfig α) (policy : ValidationPolicy) : ValidationResult :=
  if cfg.configVersion ≠ kCurrentSystemConfigVersion then
    .error "config_version must match current schema version"
  else if cfg.maxTasks = 0 then
    .error "max_tasks must be non-zero"
  else if 100 < cfg.maxTasks then
    .error "max_tasks exceeds safe maximum (100)"
  else if cfg.timing.controlPeriod ≤ 0 then
    .error "control_period must be positive"
  else if cfg.timing.controlPeriod < kMinControlPeriod then
    .error "control_period too small (minimum 1ms)"
  else if cfg.timing.watchdogPeriod < cfg.timing.controlPeriod then
    .error "watchdog_period must be >= control_period"
  else if cfg.timing.localizationTimeout ≤ 0 then
    .error "localization_timeout must be positive"
  else if !cfg.envelope.finite then
    .error "motion envelope values must be finite"
  else if cfg.envelope.maxSpeedMps ≤ 0 ∨ cfg.envelope.maxAccelMps2 ≤ 0 ∨
      cfg.envelope.maxComfortDecelMps2 ≤ 0 then
    .error "motion envelope values must be positive"
  else if 100.0 < cfg.envelope.maxSpeedMps then
    .error "max_speed_mps exceeds safe maximum (100 m/s)"
  else if 50.0 < cfg.envelope.maxAccelMps2 then
    .error "max_accel_mps2 exceeds safe maximum (50 m/s²)"
  else if cfg.envelope.controlLatencyS < 0 then
    .error "control latency cannot be negative"
  else if 1.0 < cfg.envelope.controlLatencyS then
    .error "control latency exceeds safe maximum (1.0s)"
  else if cfg.envelope.safetyBufferM < 0 then
    .error "safety buffer cannot be negative"
  else if 100.0 < cfg.envelope.safetyBufferM then
    .error "safety buffer exceeds safe maximum (100m)"
  else if cfg.envelope.safetyBufferM = 0 then
    if policy = .strict then
      .error "safety buffer must be > 0 in strict mode"
    else
      .warn "safety buffer is 0; allowed by warning policy"
  else
    .success

/-- What the checks leave of a configuration. -/
structure Accepted (cfg : SystemConfig α) (policy : ValidationPolicy) : Prop where
  version : cfg.configVersion = kCurrentSystemConfigVersion
  maxTasks_ne_zero : cfg.maxTasks ≠ 0
  maxTasks_le : ¬ 100 < cfg.maxTasks
  controlPeriod_pos : ¬ cfg.timing.controlPeriod ≤ 0
  controlPeriod_min : ¬ cfg.timing.controlPeriod < kMinControlPeriod
  watchdogPeriod : ¬ cfg.timing.watchdogPeriod < cfg.timing.controlPeriod
  localizationTimeout : ¬ cfg.timing.localizationTimeout ≤ 0
  finite : cfg.envelope.finite = true
  positive : ¬ (cfg.envelope.maxSpeedMps ≤ 0 ∨ cfg.envelope.maxAccelMps2 ≤ 0 ∨
    cfg.envelope.maxComfortDecelMps2 ≤ 0)
  maxSpeed : ¬ 100.0 < cfg.envelope.maxSpeedMps
  maxAccel : ¬ 50.0 < cfg.envelope.maxAccelMps2
  latency_nonneg : ¬ cfg.envelope.controlLatencyS < 0
  latency_le : ¬ 1.0 < cfg.envelope.controlLatencyS
  buffer_nonneg : ¬ cfg.envelope.safetyBufferM < 0
  buffer_le : ¬ 100.0 < cfg.envelope.safetyBufferM
  buffer_strict : policy = .strict → cfg.envelope.safetyBufferM ≠ 0

theorem validate_ok_iff (cfg : SystemConfig α) (policy : ValidationPolicy) :
    (validate cfg policy).ok = true ↔ Accepted cfg policy := by
  have hbuffer : (if cfg.envelope.safetyBufferM = 0 then
        if policy = .strict then
          ValidationResult.error "safety buffer must be > 0 in strict mode"
        else .warn "safety buffer is 0; allowed by warning policy"
      else .success).ok = true ↔
      (policy = .strict → cfg.envelope.safetyBufferM ≠ 0) := by
    by_cases hzero : cfg.envelope.safetyBufferM = 0
    · by_cases hstrict : policy = .strict <;> simp [hzero, hstrict]
    · simp [hzero]
  unfold validate
  simp only [ValidationResult.ite_error_ok, hbuffer]
  constructor
  · rintro ⟨h1, h2, h3, h4, h5, h6, h7, h8, h9, h10, h11, h12, h13, h14, h15, h16⟩
    exact ⟨not_not.1 h1, h2, h3, h4, h5, h6, h7, by simpa using h8, h9, h10, h11, h12, h13,
      h14, h15, h16⟩
  · rintro ⟨h1, h2, h3, h4, h5, h6, h7, h8, h9, h10, h11, h12, h13, h14, h15, h16⟩
    exact ⟨not_not.2 h1, h2, h3, h4, h5, h6, h7, by simpa using h8, h9, h10, h11, h12, h13,
      h14, h15, h16⟩

end Validate

/-- The configuration of the controller's tests is accepted under both policies. -/
theorem makeConfig_accepted {K : Type*} [Field K] [LinearOrder K] [IsStrictOrderedRing K]
    (policy : ValidationPolicy) : Accepted (makeConfig : SystemConfig K) policy := by
  constructor <;>
    norm_num [makeConfig, kMinControlPeriod, MotionEnvelopeConfig.finite, isFinite]
  -- the task limit is a machine integer
  all_goals decide

end SafetyCore
