import SafetyCore.Filters.TimeStep

/-!
# The complementary filter

`ComplementaryFilter` mixes a rate, added up over a time step, with an absolute measurement.
The share of the rate is a parameter, or is derived from a cutoff frequency and the step;
what comes out is clamped.
-/

namespace SafetyCore

open Arithmetic Transition

structure ComplementaryFilterParams (α : Type*) [OfScientific α] where
  alpha : α := 0.98
  maxAbsState : α := 1000.0
  /-- If positive, `alpha` is derived from it and the time step. -/
  cutoffFrequencyHz : α := 0.0

structure ComplementaryFilter (α : Type*) [OfScientific α] where
  config : Option (SystemConfig α)
  params : ComplementaryFilterParams α
  state : α
  lastTimestampNs : UInt64

namespace ComplementaryFilter

section Definitions

variable {α : Type*} [Zero α] [Add α] [Sub α] [Mul α] [Div α] [Neg α] [OfScientific α]
  [IntCast α] [LT α] [DecidableLT α] [FiniteTest α]

def kTwoPi : α := 6.283185307179586

/-- A new filter. -/
def initial : ComplementaryFilter α where
  config := none
  params := {}
  state := 0
  lastTimestampNs := 0

/-- Its body is the one of `clamp_position`. -/
def clampFinite (params : ComplementaryFilterParams α) (value : α) : α :=
  BoundedEkfFilter.clampAbs params.maxAbsState value

def computeAlpha (params : ComplementaryFilterParams α) (dt : α) : α :=
  if 0 < params.cutoffFrequencyHz ∧ 0 < dt then
    let tau := 1.0 / (kTwoPi * params.cutoffFrequencyHz)
    stdClamp (tau / (tau + dt)) 0 1.0
  else
    stdClamp params.alpha 0 1.0

variable (f : ComplementaryFilter α)

def applyConfig (cfg : SystemConfig α) : ComplementaryFilter α :=
  { f with config := some cfg }

def setParams (params : ComplementaryFilterParams α) : ComplementaryFilter α :=
  { f with params := params }

def reset (state : α) : ComplementaryFilter α :=
  { f with state := clampFinite f.params state, lastTimestampNs := 0 }

def dtSeconds : α := controlPeriodSeconds f.config

/-- What both updates do with the time step `dt`. -/
def advance (rateMeasurement absoluteMeasurement dt : α) : ComplementaryFilter α :=
  let predicted := f.state + rateMeasurement * dt
  let alpha := computeAlpha f.params dt
  let complementary := alpha * predicted + (1.0 - alpha) * absoluteMeasurement
  { f with state := clampFinite f.params complementary }

/-- The updates return the state of the filter that they leave. -/
def update (rateMeasurement absoluteMeasurement : α) : ComplementaryFilter α :=
  f.advance rateMeasurement absoluteMeasurement f.dtSeconds

/-- The time step of a timestamped update. -/
def timestampedDt (timestampNs : UInt64) : α :=
  timestampedSeconds f.dtSeconds f.lastTimestampNs timestampNs

/-- The update with a timestamp. -/
def updateTimestamped (rateMeasurement absoluteMeasurement : α) (timestampNs : UInt64) :
    ComplementaryFilter α :=
  { f with lastTimestampNs := timestampNs }.advance rateMeasurement absoluteMeasurement
    (f.timestampedDt timestampNs)

/-! ## The filter driven by its calls -/

inductive Event (α : Type*) [OfScientific α]
  | applyConfig (cfg : SystemConfig α)
  | setParams (params : ComplementaryFilterParams α)
  | reset (state : α)
  | update (rateMeasurement absoluteMeasurement : α)
  | updateTimestamped (rateMeasurement absoluteMeasurement : α) (timestampNs : UInt64)

/-- Every call puts out the state that it leaves. -/
def component : Component (ComplementaryFilter α) (Event α) α where
  next f
    | .applyConfig cfg => f.applyConfig cfg
    | .setParams params => f.setParams params
    | .reset state => f.reset state
    | .update rate absolute => f.update rate absolute
    | .updateTimestamped rate absolute timestampNs =>
        f.updateTimestamped rate absolute timestampNs
  output f
    | .applyConfig _ | .setParams _ => f.state
    | .reset state => (f.reset state).state
    | .update rate absolute => (f.update rate absolute).state
    | .updateTimestamped rate absolute timestampNs =>
        (f.updateTimestamped rate absolute timestampNs).state

end Definitions

end ComplementaryFilter

end SafetyCore
