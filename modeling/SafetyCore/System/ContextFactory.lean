import SafetyCore.Arithmetic.Double.Unbounded
import SafetyCore.Config.EnvLoader
import SafetyCore.Config.Migration
import SafetyCore.Config.Validation
import SafetyCore.Control.SafetyPid
import SafetyCore.Result

/-!
# The context factory

`buildContext` loads the configuration from the environment, migrates and validates it,
and only then writes to `out`. Pointers are values of an arbitrary type, and the events
of the startup are listed without their time stamps.
-/

namespace SafetyCore

open Arithmetic Text

structure SystemContext (P : Type*) where
  config : Option P := none
  clock : Option P := none
  healthMonitor : Option P := none
  diagnosticTransport : Option P := none
  safetySupervisor : Option P := none

structure ContextFactoryOptions (P α : Type*) where
  defaults : SystemConfig α
  validationPolicy : ValidationPolicy := .strict
  clock : Option P := none
  healthMonitor : Option P := none
  diagnosticTransport : Option P := none
  safetySupervisor : Option P := none

structure ContextWithConfig (P α : Type*) where
  config : SystemConfig α
  context : SystemContext P

structure StartupEvent where
  topic : String
  payload : String
  deriving DecidableEq, Repr

section BuildContext

variable {P α : Type*}

def publishStartupEvent (transport : Option P) (topic payload : String) :
    List StartupEvent :=
  match transport with
  | none => []
  | some _ => [⟨topic, payload⟩]

variable [Zero α] [OfScientific α] [LT α] [DecidableLT α] [LE α] [DecidableLE α]
  [DecidableEq α] [FiniteTest α]

/-- `outConfig` is the address of `out.config`, and `steadyClock` that of the clock that
stands in for a missing one. -/
def buildContext (getenv : String → Option (List Char)) (strtod : List Char → Conversion α)
    (outConfig steadyClock : P) (out : ContextWithConfig P α)
    (options : ContextFactoryOptions P α) :
    ContextWithConfig P α × Result × List StartupEvent :=
  let loaded := loadFromEnv getenv strtod options.defaults
  let migrated := migrateToCurrent loaded
  if !migrated.ok then
    (out, .fault migrated.message, [])
  else
    let migration :=
      if migrated.migrated then
        publishStartupEvent options.diagnosticTransport "config.migration"
          (migrated.message ++ " from=" ++ toString migrated.fromVersion ++ " to=" ++
            toString migrated.toVersion)
      else []
    let validation := validate migrated.config options.validationPolicy
    if !validation.ok then
      (out, .fault validation.message, migration)
    else
      let warning :=
        if validation.warning then
          publishStartupEvent options.diagnosticTransport "config.validation_warning"
            validation.message
        else []
      ({ config := migrated.config
         context :=
          { config := some outConfig
            clock := some (options.clock.getD steadyClock)
            healthMonitor := options.healthMonitor
            diagnosticTransport := options.diagnosticTransport
            safetySupervisor := options.safetySupervisor } },
        .ok, migration ++ warning)

variable (getenv : String → Option (List Char)) (strtod : List Char → Conversion α)
  (outConfig steadyClock : P) (out : ContextWithConfig P α)
  (options : ContextFactoryOptions P α)

/-- Either nothing is written, or the loaded configuration with the current version, which
is accepted. -/
theorem buildContext_cases :
    ((buildContext getenv strtod outConfig steadyClock out options).2.1.isOk = false ∧
      (buildContext getenv strtod outConfig steadyClock out options).1 = out) ∨
    ((buildContext getenv strtod outConfig steadyClock out options).2.1.isOk = true ∧
      (buildContext getenv strtod outConfig steadyClock out options).1.config =
        { loadFromEnv getenv strtod options.defaults with
          configVersion := kCurrentSystemConfigVersion } ∧
      Accepted (buildContext getenv strtod outConfig steadyClock out options).1.config
        options.validationPolicy) := by
  unfold buildContext
  dsimp only
  split
  next => exact .inl ⟨rfl, rfl⟩
  next hmigrated =>
    rw [Bool.not_eq_true', Bool.not_eq_false] at hmigrated
    split
    next => exact .inl ⟨rfl, rfl⟩
    next hvalid =>
      rw [Bool.not_eq_true', Bool.not_eq_false] at hvalid
      exact .inr ⟨rfl, migrateToCurrent_config hmigrated, (validate_ok_iff _ _).1 hvalid⟩

end BuildContext

section Double

variable {K : Type*} [Field K] [LinearOrder K] {F : Format K}

/-- What a configuration of the startup satisfies. -/
structure StartupConfig (policy : ValidationPolicy) (cfg : SystemConfig (Double F)) :
    Prop where
  version : cfg.configVersion = kCurrentSystemConfigVersion
  maxTasks : 1 ≤ cfg.maxTasks ∧ cfg.maxTasks ≤ 100
  controlPeriod : kMinControlPeriod ≤ cfg.timing.controlPeriod
  watchdogPeriod : cfg.timing.controlPeriod ≤ cfg.timing.watchdogPeriod
  localizationTimeout : 0 < cfg.timing.localizationTimeout
  maxSpeed : 0 < cfg.envelope.maxSpeedMps ∧ cfg.envelope.maxSpeedMps ≤ 100.0
  maxAccel : 0 < cfg.envelope.maxAccelMps2 ∧ cfg.envelope.maxAccelMps2 ≤ 50.0
  maxComfortDecel : 0 < cfg.envelope.maxComfortDecelMps2
  controlLatency : 0 ≤ cfg.envelope.controlLatencyS ∧ cfg.envelope.controlLatencyS ≤ 1.0
  safetyBuffer : 0 ≤ cfg.envelope.safetyBufferM ∧ cfg.envelope.safetyBufferM ≤ 100.0
  strictBuffer : policy = .strict → 0 < cfg.envelope.safetyBufferM

variable {cfg : SystemConfig (Double F)} {policy : ValidationPolicy}

/-- On doubles that are no NaN the checks give the bounds. -/
theorem Accepted.startupConfig (h : Accepted cfg policy) : StartupConfig policy cfg := by
  have hliteral (m : ℕ) (s : Bool) (e : ℕ) :
      (OfScientific.ofScientific m s e : Double F) ≠ .nan := Double.ofExact_ne_nan _
  have hfinite := h.finite
  simp only [MotionEnvelopeConfig.finite, Bool.and_eq_true] at hfinite
  obtain ⟨⟨⟨⟨hspeed, haccel⟩, hdecel⟩, hlatency⟩, hbuffer⟩ := hfinite
  have hspeed := Double.ne_nan_of_isFinite hspeed
  have haccel := Double.ne_nan_of_isFinite haccel
  have hdecel := Double.ne_nan_of_isFinite hdecel
  have hlatency := Double.ne_nan_of_isFinite hlatency
  have hbuffer := Double.ne_nan_of_isFinite hbuffer
  obtain ⟨hspeed0, hrest⟩ := not_or.1 h.positive
  obtain ⟨haccel0, hdecel0⟩ := not_or.1 hrest
  constructor
  case version => exact h.version
  case maxTasks =>
    have hne : cfg.maxTasks.toNat ≠ 0 := fun hnat =>
      h.maxTasks_ne_zero (UInt8.toNat_inj.1 hnat)
    exact ⟨UInt8.le_iff_toNat_le.2 (Nat.one_le_iff_ne_zero.2 hne), UInt8.not_lt.1 h.maxTasks_le⟩
  case controlPeriod => exact not_lt.1 h.controlPeriod_min
  case watchdogPeriod => exact not_lt.1 h.watchdogPeriod
  case localizationTimeout => exact not_le.1 h.localizationTimeout
  case maxSpeed =>
    exact ⟨(Double.not_le hspeed Double.zero_ne_nan).1 hspeed0,
      (Double.not_lt (hliteral _ _ _) hspeed).1 h.maxSpeed⟩
  case maxAccel =>
    exact ⟨(Double.not_le haccel Double.zero_ne_nan).1 haccel0,
      (Double.not_lt (hliteral _ _ _) haccel).1 h.maxAccel⟩
  case maxComfortDecel => exact (Double.not_le hdecel Double.zero_ne_nan).1 hdecel0
  case controlLatency =>
    exact ⟨(Double.not_lt hlatency Double.zero_ne_nan).1 h.latency_nonneg,
      (Double.not_lt (hliteral _ _ _) hlatency).1 h.latency_le⟩
  case safetyBuffer =>
    exact ⟨(Double.not_lt hbuffer Double.zero_ne_nan).1 h.buffer_nonneg,
      (Double.not_lt (hliteral _ _ _) hbuffer).1 h.buffer_le⟩
  case strictBuffer =>
    intro hstrict
    exact Double.lt_of_le_of_ne ((Double.not_lt hbuffer Double.zero_ne_nan).1 h.buffer_nonneg)
      (h.buffer_strict hstrict).symm

/-- The controller takes what the startup accepts. -/
theorem applyConfig_of_accepted (h : Accepted cfg policy)
    (c : SafetyPidController (Double F)) (now : ℤ) : (c.applyConfig cfg now).2 = .ok := by
  obtain ⟨hspeed, hrest⟩ := not_or.1 h.positive
  unfold SafetyPidController.applyConfig
  dsimp only
  rw [if_neg (not_or.2 ⟨hspeed, (not_or.1 hrest).1⟩)]

/-- If the context is built, then its configuration is within the bounds of the startup,
every duration is the 64-bit count that was read for it, the controller accepts the
configuration, and twice the localization timeout is a 64-bit count. If not, nothing is
written. -/
theorem buildContext_sound {P : Type*} (getenv : String → Option (List Char))
    (strtod : List Char → Conversion (Double F)) (outConfig steadyClock : P)
    (out : ContextWithConfig P (Double F)) (options : ContextFactoryOptions P (Double F)) :
    let built := buildContext getenv strtod outConfig steadyClock out options
    let cfg := built.1.config
    let timing := options.defaults.timing
    (built.2.1.isOk = true →
      StartupConfig options.validationPolicy cfg ∧
      cfg.timing.controlPeriod = (readDurationNs getenv "SAFETY_CORE_CONTROL_PERIOD_NS"
        timing.controlPeriod).toNat ∧
      cfg.timing.watchdogPeriod = (readDurationNs getenv "SAFETY_CORE_WATCHDOG_PERIOD_NS"
        timing.watchdogPeriod).toNat ∧
      cfg.timing.localizationTimeout = (readDurationNs getenv
        "SAFETY_CORE_LOCALIZATION_TIMEOUT_NS" timing.localizationTimeout).toNat ∧
      (∀ (c : SafetyPidController (Double F)) (now : ℤ), (c.applyConfig cfg now).2 = .ok) ∧
      2 * cfg.timing.localizationTimeout < 2 ^ 64) ∧
    (built.2.1.isOk = false → built.1 = out) := by
  dsimp only
  rcases buildContext_cases getenv strtod outConfig steadyClock out options with
    ⟨herror, hout⟩ | ⟨hok, hconfig, haccepted⟩
  · exact ⟨fun hok => absurd hok (by simp [herror]), fun _ => hout⟩
  refine ⟨fun _ => ?_, fun herror => absurd hok (by simp [herror])⟩
  have hstartup := haccepted.startupConfig
  have hcontrol : 0 < (buildContext getenv strtod outConfig steadyClock out
      options).1.config.timing.controlPeriod := not_le.1 haccepted.controlPeriod_pos
  have hwatchdog := hcontrol.trans_le hstartup.watchdogPeriod
  have hlocalization := hstartup.localizationTimeout
  have happly := applyConfig_of_accepted haccepted
  rw [hconfig] at hstartup happly hcontrol hwatchdog hlocalization ⊢
  exact ⟨hstartup, toDuration_of_pos hcontrol, toDuration_of_pos hwatchdog,
    toDuration_of_pos hlocalization, happly, two_mul_toDuration_lt _⟩

end Double

end SafetyCore
