import SafetyCore.Arithmetic.Comparison
import SafetyCore.Config.SystemConfig
import SafetyCore.Transition.Component

/-!
# The bounded Kalman filter

`BoundedEkfFilter` estimates a position and a velocity from position measurements. An
update predicts the state and its covariance over a time step and corrects both by the
measurement, unless the measurement is rejected; every result is clamped to its bounds.
The bodies of the two updates differ only in the time step, so what follows the
prediction is `correct` for both.
-/

namespace SafetyCore

open Arithmetic Transition

structure BoundedEkfParams (α : Type*) [OfScientific α] where
  processNoisePosition : α := 1e-3
  processNoiseVelocity : α := 1e-2
  measurementNoise : α := 1e-2
  maxAbsPosition : α := 1000.0
  maxAbsVelocity : α := 100.0
  minVariance : α := 1e-9
  maxVariance : α := 1e6
  innovationGateSigma : α := 5.0

/-- The four entries of the covariance. -/
structure Covariance (α : Type*) where
  p00 : α
  p01 : α
  p10 : α
  p11 : α
  deriving DecidableEq, Repr

structure BoundedEkfFilter (α : Type*) [OfScientific α] where
  config : Option (SystemConfig α)
  params : BoundedEkfParams α
  x : α
  v : α
  p : Covariance α
  healthy : Bool
  lastTimestampNs : UInt64
  rejectedCount : UInt64

namespace BoundedEkfFilter

/-- Where an update returns. -/
inductive Exit
  | invalidInput
  | staleMeasurement
  | invalidInnovationVariance
  | gated
  | corrected
  deriving DecidableEq, Repr

/-- What an update returns, and where. -/
structure Updated (α : Type*) [OfScientific α] where
  filter : BoundedEkfFilter α
  returned : Bool
  exit : Exit

section Definitions

variable {α : Type*} [Zero α] [Add α] [Sub α] [Mul α] [Div α] [Neg α] [OfScientific α]
  [IntCast α] [LT α] [DecidableLT α] [LE α] [DecidableLE α] [FiniteTest α]

def kStaleMeasurementMultiplier : α := 10.0

/-- `std::chrono::duration<double>(d).count()`. -/
def seconds (d : ℤ) : α := (d : α) / 1e9

/-! ## Clamps -/

/-- The bodies of `clamp_position` and `clamp_velocity`. -/
def clampAbs (maxAbs value : α) : α :=
  if !isFinite value then
    0
  else
    let bound := stdMax 0 maxAbs
    stdClamp value (-bound) bound

def clampPosition (params : BoundedEkfParams α) (value : α) : α :=
  clampAbs params.maxAbsPosition value

def clampVelocity (params : BoundedEkfParams α) (value : α) : α :=
  clampAbs params.maxAbsVelocity value

/-- The bounds of the variances. -/
def minV (params : BoundedEkfParams α) : α := stdMax params.minVariance 0

def maxV (params : BoundedEkfParams α) : α := stdMax params.maxVariance (minV params)

def clampCovariance (params : BoundedEkfParams α) (p : Covariance α) : Covariance α :=
  let minV := minV params
  let maxV := maxV params
  let p00 := if !isFinite p.p00 then maxV else p.p00
  let p11 := if !isFinite p.p11 then maxV else p.p11
  let p01 := if !isFinite p.p01 then 0 else p.p01
  let p10 := if !isFinite p.p10 then 0 else p.p10
  { p00 := stdClamp p00 minV maxV
    p01 := stdClamp p01 (-maxV) maxV
    p10 := stdClamp p10 (-maxV) maxV
    p11 := stdClamp p11 minV maxV }

/-! ## The covariance of a prediction and of a correction -/

def predictCovariance (params : BoundedEkfParams α) (dt : α) (old : Covariance α) :
    Covariance α :=
  let qPos := stdMax params.processNoisePosition params.minVariance
  let qVel := stdMax params.processNoiseVelocity params.minVariance
  { p00 := old.p00 + dt * (old.p10 + old.p01) + dt * dt * old.p11 + qPos
    p01 := old.p01 + dt * old.p11
    p10 := old.p10 + dt * old.p11
    p11 := old.p11 + qVel }

/-- The covariance after a correction with the innovation variance `s`. -/
def correctCovariance (s : α) (old : Covariance α) : Covariance α :=
  let k0 := old.p00 / s
  let k1 := old.p10 / s
  { p00 := (1.0 - k0) * old.p00
    p01 := (1.0 - k0) * old.p01
    p10 := old.p10 - k1 * old.p00
    p11 := old.p11 - k1 * old.p01 }

/-! ## Operations -/

/-- The checks of `set_params`. -/
def validParams (params : BoundedEkfParams α) : Bool :=
  (isFinite params.processNoisePosition && isFinite params.processNoiseVelocity &&
    isFinite params.measurementNoise && isFinite params.maxAbsPosition &&
    isFinite params.maxAbsVelocity && isFinite params.minVariance &&
    isFinite params.maxVariance && isFinite params.innovationGateSigma) &&
  !(params.minVariance < 0 || params.maxVariance < params.minVariance ||
    params.maxAbsPosition < 0 || params.maxAbsVelocity < 0 ||
    params.innovationGateSigma < 0)

/-- A new filter. -/
def initial : BoundedEkfFilter α where
  config := none
  params := {}
  x := 0
  v := 0
  p := ⟨1.0, 0.0, 0.0, 1.0⟩
  healthy := true
  lastTimestampNs := 0
  rejectedCount := 0

variable (f : BoundedEkfFilter α)

def applyConfig (cfg : SystemConfig α) : BoundedEkfFilter α :=
  { f with config := some cfg }

def setParams (params : BoundedEkfParams α) : BoundedEkfFilter α :=
  if validParams params then
    { f with
      params := params
      p := clampCovariance params f.p
      x := clampPosition params f.x
      v := clampVelocity params f.v }
  else
    f

def reset (position velocity : α) : BoundedEkfFilter α :=
  { f with
    x := clampPosition f.params position
    v := clampVelocity f.params velocity
    p := clampCovariance f.params ⟨1.0, 0.0, 0.0, 1.0⟩
    healthy := true
    lastTimestampNs := 0
    rejectedCount := 0 }

def dtSeconds : α :=
  match f.config with
  | none => 0.1
  | some cfg =>
      if 0 < cfg.timing.controlPeriod then seconds cfg.timing.controlPeriod else 0.1

def predict (accel dt : α) : BoundedEkfFilter α :=
  let x := f.x + (f.v * dt + 0.5 * accel * dt * dt)
  let v := f.v + accel * dt
  { f with
    x := clampPosition f.params x
    v := clampVelocity f.params v
    p := clampCovariance f.params (predictCovariance f.params dt f.p) }

/-- `s` of the updates. -/
def innovationVariance : α :=
  f.p.p00 + stdMax f.params.measurementNoise f.params.minVariance

/-- The check of `s` that leads to the exit for an invalid innovation variance. -/
def invalidInnovationVariance : Bool :=
  !isFinite f.innovationVariance || !isFinite f.params.minVariance ||
    f.innovationVariance ≤ f.params.minVariance

def innovationGate (innovation s : α) : Bool :=
  if f.params.innovationGateSigma ≤ 0 then
    true
  else
    let mahalSq := (innovation * innovation) / s
    let threshold := f.params.innovationGateSigma * f.params.innovationGateSigma
    mahalSq ≤ threshold

/-- What both updates do after the prediction. -/
def correct (measurement : α) : Updated α :=
  let s := f.innovationVariance
  if f.invalidInnovationVariance then
    ⟨{ f with healthy := false }, false, .invalidInnovationVariance⟩
  else
    let innovation := measurement - f.x
    if !f.innovationGate innovation s then
      ⟨{ f with rejectedCount := f.rejectedCount + 1 }, f.healthy, .gated⟩
    else
      let k0 := f.p.p00 / s
      let k1 := f.p.p10 / s
      let x := clampPosition f.params (f.x + k0 * innovation)
      let v := clampVelocity f.params (f.v + k1 * innovation)
      let healthy := isFinite x && isFinite v
      ⟨{ f with
          x := x
          v := v
          p := clampCovariance f.params (correctCovariance s f.p)
          healthy := healthy }, healthy, .corrected⟩

def update (measurement accel : α) : Updated α :=
  if !isFinite measurement || !isFinite accel then
    ⟨{ f with healthy := false }, false, .invalidInput⟩
  else
    (f.predict accel f.dtSeconds).correct measurement

/-- The time step of a timestamped update. -/
def timestampedDt (timestampNs : UInt64) : α :=
  if f.lastTimestampNs > 0 && timestampNs > f.lastTimestampNs then
    (((timestampNs - f.lastTimestampNs).toNat : ℤ) : α) * 1e-9
  else
    f.dtSeconds

/-- The update with a timestamp. -/
def updateTimestamped (measurement accel : α) (timestampNs : UInt64) : Updated α :=
  if !isFinite measurement || !isFinite accel then
    ⟨{ f with healthy := false }, false, .invalidInput⟩
  else
    let dt := f.timestampedDt timestampNs
    let f := { f with lastTimestampNs := timestampNs }
    let expectedDt := f.dtSeconds
    if expectedDt * kStaleMeasurementMultiplier < dt then
      ⟨f, f.healthy, .staleMeasurement⟩
    else
      (f.predict accel dt).correct measurement

omit [IntCast α] in
/-- The three exits of a correction. -/
theorem correct_cases (measurement : α) :
    (f.invalidInnovationVariance = true ∧
        f.correct measurement =
          ⟨{ f with healthy := false }, false, .invalidInnovationVariance⟩) ∨
      (f.invalidInnovationVariance = false ∧
        f.correct measurement =
          ⟨{ f with rejectedCount := f.rejectedCount + 1 }, f.healthy, .gated⟩) ∨
      (f.invalidInnovationVariance = false ∧ ∃ x v healthy,
        f.correct measurement =
          ⟨{ f with
              x := clampPosition f.params x
              v := clampVelocity f.params v
              p := clampCovariance f.params (correctCovariance f.innovationVariance f.p)
              healthy := healthy }, healthy, .corrected⟩) := by
  unfold correct
  cases hinvalid : f.invalidInnovationVariance with
  | true => exact .inl ⟨rfl, rfl⟩
  | false =>
      right
      cases hgate : f.innovationGate (measurement - f.x) f.innovationVariance with
      | false => exact .inl ⟨rfl, by simp [hgate]⟩
      | true =>
          let innovation := measurement - f.x
          let x := f.x + f.p.p00 / f.innovationVariance * innovation
          let v := f.v + f.p.p10 / f.innovationVariance * innovation
          exact .inr ⟨rfl, x, v,
            isFinite (clampPosition f.params x) && isFinite (clampVelocity f.params v),
            by simp [hgate, innovation, x, v]⟩

/-! ## The filter driven by its calls -/

inductive Event (α : Type*) [OfScientific α]
  | applyConfig (cfg : SystemConfig α)
  | setParams (params : BoundedEkfParams α)
  | reset (position velocity : α)
  | update (measurement accel : α)
  | updateTimestamped (measurement accel : α) (timestampNs : UInt64)

/-- The updates put out what they return, and where. -/
def component : Component (BoundedEkfFilter α) (Event α) (Option (Bool × Exit)) where
  next f
    | .applyConfig cfg => f.applyConfig cfg
    | .setParams params => f.setParams params
    | .reset position velocity => f.reset position velocity
    | .update measurement accel => (f.update measurement accel).filter
    | .updateTimestamped measurement accel timestampNs =>
        (f.updateTimestamped measurement accel timestampNs).filter
  output f
    | .update measurement accel =>
        let updated := f.update measurement accel
        some (updated.returned, updated.exit)
    | .updateTimestamped measurement accel timestampNs =>
        let updated := f.updateTimestamped measurement accel timestampNs
        some (updated.returned, updated.exit)
    | _ => none

end Definitions

end BoundedEkfFilter

end SafetyCore
