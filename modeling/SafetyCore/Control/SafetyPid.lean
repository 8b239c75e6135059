import SafetyCore.Arithmetic.Comparison
import SafetyCore.Config.SystemConfig
import SafetyCore.Result
import SafetyCore.Transition.Component

/-!
# The PID controller

`SafetyPidController` limits its output to the speed and the acceleration of the
motion envelope and returns zero while the localization is stale. Time points are
signed counts of nanoseconds. A call that reads the clock twice takes both
readings, and `component` is the controller driven by the calls that a run makes
on it. Diagnostic events are output only and are left out.
-/

namespace SafetyCore

open Arithmetic Transition

structure PidGains (α : Type*) [OfScientific α] where
  kp : α := 0.0
  ki : α := 0.0
  kd : α := 0.0
  maxIntegral : α := 100.0

structure SafetyPidController (α : Type*) [OfScientific α] where
  config : Option (SystemConfig α)
  gains : PidGains α
  integral : α
  prevError : α
  lastOutput : α
  firstUpdate : Bool
  lastUpdate : ℤ
  lastLocalizationUpdate : ℤ

namespace SafetyPidController

section Calls

variable {α : Type*} [Zero α] [Add α] [Sub α] [Mul α] [Div α] [Neg α] [OfScientific α]
  [IntCast α] [LT α] [DecidableLT α] [LE α] [DecidableLE α] [DecidableEq α]
  [FiniteTest α] (c : SafetyPidController α)

def kDefaultDtSeconds : α := 0.1

/-- `std::chrono::duration<double>(d).count()`. -/
def seconds (d : ℤ) : α := (d : α) / 1e9

def reset (now : ℤ) : SafetyPidController α :=
  { c with
    integral := 0
    prevError := 0
    lastOutput := 0
    firstUpdate := true
    lastUpdate := now }

/-- The constructor, with its two readings of the clock. -/
def create (nowReset now : ℤ) : SafetyPidController α where
  config := none
  gains := {}
  integral := 0
  prevError := 0
  lastOutput := 0
  firstUpdate := true
  lastUpdate := nowReset
  lastLocalizationUpdate := now

def applyConfig (cfg : SystemConfig α) (now : ℤ) : SafetyPidController α × Result :=
  let c := { c with config := some cfg }.reset now
  if cfg.envelope.maxSpeedMps ≤ 0 ∨ cfg.envelope.maxAccelMps2 ≤ 0 then
    (c, .fault "invalid motion envelope config")
  else
    (c, .ok)

def setGains (gains : PidGains α) : SafetyPidController α :=
  { c with gains := gains }

def markLocalizationUpdate (stamp : ℤ) : SafetyPidController α :=
  { c with lastLocalizationUpdate := stamp }

def localizationValid (stamp : ℤ) : Bool :=
  match c.config with
  | none => true
  | some cfg =>
      let timeout := cfg.timing.localizationTimeout
      if timeout = 0 then true
      else stamp - c.lastLocalizationUpdate ≤ timeout

def clampSpeed (value : α) : α :=
  match c.config with
  | none => value
  | some cfg =>
      if cfg.envelope.maxSpeedMps ≤ 0 then
        value
      else
        let limit := cfg.envelope.maxSpeedMps
        stdClamp value (-limit) limit

def clampAccel (desired dt : α) : α :=
  match c.config with
  | none => desired
  | some cfg =>
      if cfg.envelope.maxAccelMps2 ≤ 0 ∨ dt ≤ 0 then
        desired
      else
        let maxDelta := cfg.envelope.maxAccelMps2 * dt
        let delta := desired - c.lastOutput
        let limited :=
          if maxDelta < delta then c.lastOutput + maxDelta
          else if delta < -maxDelta then c.lastOutput - maxDelta
          else desired
        c.clampSpeed limited

/-- The control period in seconds, where one is configured. Both overloads of
`compute` begin with it. -/
def configuredDt : α :=
  match c.config with
  | none => kDefaultDtSeconds
  | some cfg =>
      let cfgDt : α := seconds cfg.timing.controlPeriod
      if 0 < cfgDt then cfgDt else kDefaultDtSeconds

/-- The two-argument `compute`. The stale branch reads the clock once more to
reset the controller. -/
def compute (now nowReset : ℤ) (setpoint measurement : α) :
    SafetyPidController α × α :=
  if !c.localizationValid now then
    ({ c.reset nowReset with lastLocalizationUpdate := now }, 0)
  else
    let elapsed : α := seconds (now - c.lastUpdate)
    let dt := if !c.firstUpdate && 1e-6 < elapsed then elapsed else c.configuredDt
    let error := setpoint - measurement
    let integral := c.integral + error * dt
    let integral :=
      if 0 < c.gains.maxIntegral then
        stdClamp integral (-c.gains.maxIntegral) c.gains.maxIntegral
      else integral
    let derivative :=
      if !c.firstUpdate && 0 < dt then (error - c.prevError) / dt else 0
    let output := c.gains.kp * error + c.gains.ki * integral + c.gains.kd * derivative
    let preAccelOutput := c.clampSpeed output
    let output := c.clampAccel preAccelOutput dt
    let integral :=
      if 1e-9 < stdAbs (preAccelOutput - output) ∧ c.gains.ki ≠ 0 then
        integral - (preAccelOutput - output) / c.gains.ki
      else integral
    ({ c with
        integral := integral
        prevError := error
        lastOutput := output
        lastUpdate := now
        firstUpdate := false }, output)

/-- The four-argument `compute`. -/
def computeFeedforward (now nowReset : ℤ)
    (setpoint measurement ffVelocity ffAcceleration : α) :
    SafetyPidController α × α :=
  let (c, pidOutput) := c.compute now nowReset setpoint measurement
  if !isFinite ffVelocity || !isFinite ffAcceleration then
    (c, pidOutput)
  else
    let output := pidOutput + ffVelocity + ffAcceleration * c.configuredDt
    let output := c.clampSpeed output
    ({ c with lastOutput := output }, output)

/-- The calls on a configured controller. -/
inductive Event (α : Type*) [OfScientific α]
  | setGains (gains : PidGains α)
  | reset (now : ℤ)
  | markLocalizationUpdate (stamp : ℤ)
  | compute (now nowReset : ℤ) (setpoint measurement : α)

/-- The controller driven by calls; `compute` puts out the value it returns. -/
def component : Component (SafetyPidController α) (Event α) (Option α) where
  next c
    | .setGains gains => c.setGains gains
    | .reset now => c.reset now
    | .markLocalizationUpdate stamp => c.markLocalizationUpdate stamp
    | .compute now nowReset setpoint measurement =>
        (c.compute now nowReset setpoint measurement).1
  output c
    | .compute now nowReset setpoint measurement =>
        some (c.compute now nowReset setpoint measurement).2
    | _ => none

/-- The calls on a configured controller, with both overloads of `compute`. -/
inductive Call (α : Type*) [OfScientific α]
  | plain (e : Event α)
  | computeFeedforward (now nowReset : ℤ)
      (setpoint measurement ffVelocity ffAcceleration : α)

/-- The controller driven by calls of both overloads. -/
def callComponent : Component (SafetyPidController α) (Call α) (Option α) where
  next c
    | .plain e => component.next c e
    | .computeFeedforward now nowReset setpoint measurement ffVelocity ffAcceleration =>
        (c.computeFeedforward now nowReset setpoint measurement ffVelocity
          ffAcceleration).1
  output c
    | .plain e => component.output c e
    | .computeFeedforward now nowReset setpoint measurement ffVelocity ffAcceleration =>
        some (c.computeFeedforward now nowReset setpoint measurement ffVelocity
          ffAcceleration).2

end Calls

/-- Accepted or not, the configuration is installed. -/
theorem applyConfig_fst {α : Type*} [Zero α] [OfScientific α] [LE α] [DecidableLE α]
    (c : SafetyPidController α) (cfg : SystemConfig α) (now : ℤ) :
    (c.applyConfig cfg now).1 = { c with config := some cfg }.reset now := by
  unfold applyConfig
  dsimp only
  split <;> rfl

/-! ## The localization guard -/

/-- A positive timeout arms the guard. -/
theorem localizationValid_eq_false_iff {α : Type*} [OfScientific α]
    {c : SafetyPidController α} {cfg : SystemConfig α} {now : ℤ}
    (hcfg : c.config = some cfg) (hT : 0 < cfg.timing.localizationTimeout) :
    c.localizationValid now = false ↔
      cfg.timing.localizationTimeout < now - c.lastLocalizationUpdate := by
  unfold localizationValid
  rw [hcfg]
  simp only [hT.ne', if_false, decide_eq_false_iff_not, Int.not_le]

section Guard

variable {α : Type*} [Zero α] [Add α] [Sub α] [Mul α] [Div α] [Neg α] [OfScientific α]
  [IntCast α] [LT α] [DecidableLT α] [LE α] [DecidableLE α] [DecidableEq α]
  {c : SafetyPidController α} {now : ℤ} (nowReset : ℤ) (setpoint measurement : α)

/-- The stale branch: the controller is reset, and the current time stands in for
the stamp. -/
theorem compute_of_stale (h : c.localizationValid now = false) :
    c.compute now nowReset setpoint measurement =
      ({ c.reset nowReset with lastLocalizationUpdate := now }, 0) := by
  simp [compute, h]

theorem compute_lastLocalizationUpdate :
    (c.compute now nowReset setpoint measurement).1.lastLocalizationUpdate =
      if c.localizationValid now = true then c.lastLocalizationUpdate else now := by
  unfold compute
  cases c.localizationValid now <;> rfl

@[simp] theorem compute_config :
    (c.compute now nowReset setpoint measurement).1.config = c.config := by
  unfold compute
  cases c.localizationValid now <;> rfl

@[simp] theorem compute_gains :
    (c.compute now nowReset setpoint measurement).1.gains = c.gains := by
  unfold compute
  cases c.localizationValid now <;> rfl

theorem compute_lastOutput :
    (c.compute now nowReset setpoint measurement).1.lastOutput =
      (c.compute now nowReset setpoint measurement).2 := by
  unfold compute
  cases c.localizationValid now <;> rfl

variable [FiniteTest α] (ffVelocity ffAcceleration : α)

variable (c now) in
/-- The feedforward overload replaces the output of `compute` and keeps the rest. -/
theorem computeFeedforward_frame :
    ∃ output, c.computeFeedforward now nowReset setpoint measurement ffVelocity
        ffAcceleration =
      ({ (c.compute now nowReset setpoint measurement).1 with lastOutput := output },
        output) := by
  have hlast : (c.compute now nowReset setpoint measurement).1.lastOutput =
      (c.compute now nowReset setpoint measurement).2 :=
    compute_lastOutput nowReset setpoint measurement
  unfold computeFeedforward
  generalize c.compute now nowReset setpoint measurement = r at hlast ⊢
  obtain ⟨c', pidOutput⟩ := r
  dsimp only at hlast ⊢
  split
  · rw [← hlast]
    exact ⟨_, rfl⟩
  · exact ⟨_, rfl⟩

@[simp] theorem computeFeedforward_config :
    (c.computeFeedforward now nowReset setpoint measurement ffVelocity
      ffAcceleration).1.config = c.config := by
  obtain ⟨_, heq⟩ := c.computeFeedforward_frame now nowReset setpoint
    measurement ffVelocity ffAcceleration
  rw [heq]
  exact compute_config nowReset setpoint measurement

@[simp] theorem computeFeedforward_gains :
    (c.computeFeedforward now nowReset setpoint measurement ffVelocity
      ffAcceleration).1.gains = c.gains := by
  obtain ⟨_, heq⟩ := c.computeFeedforward_frame now nowReset setpoint
    measurement ffVelocity ffAcceleration
  rw [heq]
  exact compute_gains nowReset setpoint measurement

theorem computeFeedforward_lastOutput :
    (c.computeFeedforward now nowReset setpoint measurement ffVelocity
        ffAcceleration).1.lastOutput =
      (c.computeFeedforward now nowReset setpoint measurement ffVelocity
        ffAcceleration).2 := by
  obtain ⟨_, heq⟩ := c.computeFeedforward_frame now nowReset setpoint
    measurement ffVelocity ffAcceleration
  rw [heq]

/-- No call but `applyConfig` changes the configuration. -/
theorem callComponent_config (c : SafetyPidController α) (e : Call α) :
    (callComponent.next c e).config = c.config := by
  cases e with
  | plain e =>
      cases e with
      | compute now nowReset setpoint measurement => exact compute_config ..
      | setGains gains => rfl
      | reset now => rfl
      | markLocalizationUpdate stamp => rfl
  | computeFeedforward now nowReset setpoint measurement ffVelocity ffAcceleration =>
      exact computeFeedforward_config ..

end Guard

end SafetyPidController

end SafetyCore
