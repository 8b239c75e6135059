import SafetyCore.Filters.TimeStep

/-!
# The alpha-beta filter

`AlphaBetaFilter` estimates a position and a velocity: an update extrapolates the position
over a time step and corrects both by fractions of the residual.
-/

namespace SafetyCore

structure AlphaBetaParams (α : Type*) [OfScientific α] where
  alpha : α := 0.85
  beta : α := 0.005

structure AlphaBetaFilter (α : Type*) [OfScientific α] where
  config : Option (SystemConfig α)
  params : AlphaBetaParams α
  position : α
  velocity : α
  lastTimestampNs : UInt64

namespace AlphaBetaFilter

variable {α : Type*} [Zero α] [Add α] [Sub α] [Mul α] [Div α] [OfScientific α] [IntCast α]

/-- A new filter. -/
def initial : AlphaBetaFilter α where
  config := none
  params := {}
  position := 0
  velocity := 0
  lastTimestampNs := 0

variable (f : AlphaBetaFilter α)

def applyConfig (cfg : SystemConfig α) : AlphaBetaFilter α :=
  { f with config := some cfg }

def setParams (params : AlphaBetaParams α) : AlphaBetaFilter α :=
  { f with params := params }

def reset (position velocity : α) : AlphaBetaFilter α :=
  { f with position := position, velocity := velocity, lastTimestampNs := 0 }

def dtSeconds : α := controlPeriodSeconds f.config

/-- What both updates do with the time step `dt`. -/
def advance (measurement dt : α) : AlphaBetaFilter α :=
  let prediction := f.position + f.velocity * dt
  let residual := measurement - prediction
  { f with
    position := prediction + f.params.alpha * residual
    velocity := f.velocity + f.params.beta / dt * residual }

/-- The updates return the position of the filter that they leave. -/
def update (measurement : α) : AlphaBetaFilter α := f.advance measurement f.dtSeconds

variable [LE α] [DecidableLE α]

/-- The time step of a timestamped update. -/
def timestampedDt (timestampNs : UInt64) : α :=
  let dt := timestampedSeconds f.dtSeconds f.lastTimestampNs timestampNs
  if dt ≤ 0 then f.dtSeconds else dt

/-- The update with a timestamp. -/
def updateTimestamped (measurement : α) (timestampNs : UInt64) : AlphaBetaFilter α :=
  { f with lastTimestampNs := timestampNs }.advance measurement (f.timestampedDt timestampNs)

end AlphaBetaFilter

end SafetyCore
