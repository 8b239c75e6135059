import SafetyCore.Arithmetic.Trigonometry
import SafetyCore.Config.Validation
import SafetyCore.Ros.DriveBridge
import SafetyCore.Safety.StopDistance

/-!
# The safety envelope node

`SafetyEnvelopeNode` looks for the nearest obstacle of a laser scan in a corridor ahead of
the vehicle and publishes an `EnvelopeStatus` for each scan: the evaluation of the distance
at the measured speed, or a substitute where no obstacle is in sight. `component` is the node
driven by its callbacks, with the clock reading of a callback in its event.

A distance of `⊤` is the infinity that stands for no obstacle. The zone markers, the message
headers and the log lines are output only and are left out.
-/

namespace SafetyCore

open Arithmetic Transition

/-! ## Messages -/

/-- The fields of a `LaserScan` that the node reads. -/
structure LaserScan (α : Type*) where
  angleMin : α
  angleIncrement : α
  rangeMax : α
  ranges : List α
  deriving DecidableEq, Repr

/-- The `EnvelopeStatus` message with all its fields. -/
structure EnvelopeStatusMsg (α : Type*) extends EnvelopeStatus α where
  distanceToObstacleM : α
  currentSpeedMps : α
  withinEnvelope : Bool
  stoppingDistanceM : WithTop α
  requiredClearanceM : WithTop α
  footprintLengthM : α
  footprintWidthM : α
  footprintFrontOverhangM : α

/-- The footprint with the sizes that the evaluation does not read. -/
structure VehicleFootprint (α : Type*) extends RobotFootprint α where
  lengthM : α
  widthM : α

/-! ## The node -/

/-- The parameters that the node loads, with the values for those that are not set. -/
structure SafetyEnvelopeParams (α : Type*) [OfScientific α] where
  maxSpeedMps : α := 1.5
  maxAccelMps2 : α := 0.75
  maxComfortDecelMps2 : α := 1.0
  controlLatencyS : α := 0.04
  safetyBufferM : α := 0.3
  dynamicBufferEnabled : Bool := false
  velocityFactor : α := 0.3
  minBufferM : α := 0.5
  lengthM : α := 0.8
  widthM : α := 0.6
  frontOverhangM : α := 0.1
  corridorHalfWidthM : α := 0.5
  scanMinValidRangeM : α := 0.05
  scanIgnoreMinRangeM : α := 0.5
  startupGracePeriodS : α := 2.0

structure SafetyEnvelopeNode (α : Type*) where
  config : SystemConfig α
  footprint : VehicleFootprint α
  corridorHalfWidthM : α
  scanMinValidRangeM : α
  scanIgnoreMinRangeM : α
  startupGracePeriodS : α
  dynamicBufferEnabled : Bool
  velocityFactor : α
  minBufferM : α
  latestSpeedMps : α
  startupTimeNs : ℤ

namespace SafetyEnvelopeNode

/-- The callbacks of the node with their messages and clock readings. -/
inductive Event (α : Type*)
  | odom (linearX : α)
  | scan (msg : LaserScan α) (now : ℤ)

/-- The speed that a callback measures. -/
def Event.linearX? {α : Type*} : Event α → Option α
  | .odom linearX => some linearX
  | .scan _ _ => none

section Create

variable {α : Type*} [Zero α] [OfScientific α] [LT α] [DecidableLT α] [LE α] [DecidableLE α]
  [DecidableEq α] [FiniteTest α]

/-- The configuration that is put together from the parameters. -/
def configOf (loaded : SafetyEnvelopeParams α) : SystemConfig α where
  timing :=
    { controlPeriod := 50000000
      watchdogPeriod := 100000000
      localizationTimeout := 500000000 }
  envelope :=
    { maxSpeedMps := loaded.maxSpeedMps
      maxAccelMps2 := loaded.maxAccelMps2
      maxComfortDecelMps2 := loaded.maxComfortDecelMps2
      controlLatencyS := loaded.controlLatencyS
      safetyBufferM := loaded.safetyBufferM }
  maxTasks := 10
  configVersion := kCurrentSystemConfigVersion

/-- The members as they are loaded from the parameters. -/
def membersOf (loaded : SafetyEnvelopeParams α) (startupTimeNs : ℤ) :
    SafetyEnvelopeNode α where
  config := configOf loaded
  footprint :=
    { frontOverhangM := loaded.frontOverhangM
      lengthM := loaded.lengthM
      widthM := loaded.widthM }
  corridorHalfWidthM := loaded.corridorHalfWidthM
  scanMinValidRangeM := loaded.scanMinValidRangeM
  scanIgnoreMinRangeM := loaded.scanIgnoreMinRangeM
  startupGracePeriodS := loaded.startupGracePeriodS
  dynamicBufferEnabled := loaded.dynamicBufferEnabled
  velocityFactor := loaded.velocityFactor
  minBufferM := loaded.minBufferM
  latestSpeedMps := 0
  startupTimeNs := startupTimeNs

/-- The constructor, with the parameters that it loads. -/
def create (loaded : SafetyEnvelopeParams α) (startupTimeNs : ℤ) :
    Except String (SafetyEnvelopeNode α) :=
  let result := validate (configOf loaded) .strict
  if !result.ok then
    .error ("Invalid configuration: " ++ result.message)
  else
    .ok (membersOf loaded startupTimeNs)

/-- A node is constructed exactly where its configuration is accepted. -/
theorem create_eq_ok_iff {loaded : SafetyEnvelopeParams α} {startupTimeNs : ℤ}
    {n : SafetyEnvelopeNode α} :
    create loaded startupTimeNs = .ok n ↔
      Accepted (configOf loaded) .strict ∧ membersOf loaded startupTimeNs = n := by
  rw [← validate_ok_iff]
  unfold create
  cases h : (validate (configOf loaded) .strict).ok <;> simp [h]

/-- The values of the parameters that are not set are accepted. -/
theorem create_default {K : Type*} [Field K] [LinearOrder K] [IsStrictOrderedRing K]
    (startupTimeNs : ℤ) :
    create ({} : SafetyEnvelopeParams K) startupTimeNs = .ok (membersOf {} startupTimeNs) := by
  refine create_eq_ok_iff.2 ⟨?_, rfl⟩
  constructor <;>
    norm_num [configOf, kMinControlPeriod, MotionEnvelopeConfig.finite, isFinite]
  -- the task limit is a machine integer
  all_goals decide

end Create

section Callbacks

variable {α : Type*} [Zero α] [Add α] [Sub α] [Mul α] [Div α] [Neg α] [OfScientific α]
  [IntCast α] [LT α] [DecidableLT α] [LE α] [DecidableLE α] [FiniteTest α] [SquareRoot α]
  [Trigonometry α]

variable (n : SafetyEnvelopeNode α)

def onOdom (linearX : α) : SafetyEnvelopeNode α := { n with latestSpeedMps := linearX }

/-! ### The nearest obstacle -/

def isScanPointValid (range minRange maxRange : α) : Bool :=
  isFinite range && (minRange ≤ range && range ≤ maxRange)

def calculatePointDistance (range angle : α) : α := range * cos angle

def isPointInForwardCorridor (x y corridorSq : α) : Bool := 0 < x && y * y ≤ corridorSq

/-- The half of the width of the corridor. -/
def corridor : α := n.footprint.widthM * 0.5 + n.corridorHalfWidthM

def corridorSq : α := n.corridor * n.corridor

/-- One round of the loop over the ranges of a scan. -/
def nearestStep (scan : LaserScan α) (i : ℕ) (r : α) (minD : WithTop α) :
    WithTop α :=
  if !isScanPointValid r n.scanMinValidRangeM scan.rangeMax then
    minD
  else
    let angle := scan.angleMin + ((i : ℤ) : α) * scan.angleIncrement
    let x := calculatePointDistance r angle
    let y := r * sin angle
    if !isPointInForwardCorridor x y n.corridorSq then
      minD
    else if x < n.scanIgnoreMinRangeM then
      -- workers on the robot
      minD
    else
      stdMin (x : WithTop α) minD

/-- The loop from the range with the index `i` on. -/
def nearestFrom (scan : LaserScan α) : ℕ → List α → WithTop α → WithTop α
  | _, [], minD => minD
  | i, r :: rs, minD => nearestFrom scan (i + 1) rs (n.nearestStep scan i r minD)

def nearestObstacleInFootprintCorridor (scan : LaserScan α) : WithTop α :=
  n.nearestFrom scan 0 scan.ranges ⊤

/-! ### The published status -/

def inGracePeriod (now : ℤ) : Bool :=
  ((now - n.startupTimeNs : ℤ) : α) / 1e9 < n.startupGracePeriodS

def dynamicBuffer (speed : α) : α :=
  if n.dynamicBufferEnabled then
    stdMin (n.minBufferM + n.velocityFactor * stdAbs speed)
      (n.config.envelope.safetyBufferM * 2.0)
  else
    n.config.envelope.safetyBufferM

/-- The limit of a warning that no evaluation recommends. -/
def cautiousSpeed (speed : α) : α := stdMin speed (n.config.envelope.maxSpeedMps * 0.5)

/-- The evaluation at a finite distance, with the buffer for the speed. -/
def evaluate (distance speed : α) : EnvelopeEvaluation α :=
  evaluateStopDistanceOf distance speed
    { n.config.envelope with safetyBufferM := n.dynamicBuffer speed }
    n.footprint.toRobotFootprint

/-- During the grace period an emergency is a warning. -/
def modifiedEval (distance speed : α) (now : ℤ) : EnvelopeEvaluation α :=
  let eval := n.evaluate distance speed
  if n.inGracePeriod now ∧ eval.zone = .emergency then
    { eval with
      zone := .warning
      recommendedSpeedLimitMps := n.cautiousSpeed speed }
  else
    eval

/-- The status where no valid obstacle was found: clear during the grace period, to allow a
startup, and a warning after it. -/
def noObstacleStatus (speed : α) (now : ℤ) : EnvelopeStatusMsg α where
  zone := (if n.inGracePeriod now then SafetyZone.clear else .warning).toRaw
  recommendedSpeedLimitMps :=
    if n.inGracePeriod now then n.config.envelope.maxSpeedMps else n.cautiousSpeed speed
  distanceToObstacleM := -1.0
  currentSpeedMps := speed
  withinEnvelope := n.inGracePeriod now
  stoppingDistanceM := (n.dynamicBuffer speed : WithTop α)
  requiredClearanceM := (n.dynamicBuffer speed : WithTop α)
  footprintLengthM := n.footprint.lengthM
  footprintWidthM := n.footprint.widthM
  footprintFrontOverhangM := n.footprint.frontOverhangM

/-- The status of an obstacle at a finite distance. -/
def obstacleStatus (distance speed : α) (now : ℤ) : EnvelopeStatusMsg α :=
  let eval := n.modifiedEval distance speed now
  { zone := eval.zone.toRaw
    recommendedSpeedLimitMps := eval.recommendedSpeedLimitMps
    distanceToObstacleM := if isFinite distance then distance else -1.0
    currentSpeedMps := speed
    withinEnvelope := eval.withinEnvelope
    stoppingDistanceM := eval.stoppingDistance
    requiredClearanceM := eval.requiredClearance
    footprintLengthM := n.footprint.lengthM
    footprintWidthM := n.footprint.widthM
    footprintFrontOverhangM := n.footprint.frontOverhangM }

def publishEnvelope (distance : WithTop α) (speed : α) (now : ℤ) : EnvelopeStatusMsg α :=
  match distance with
  | ⊤ => n.noObstacleStatus speed now
  | (d : α) =>
      if !isFinite d ∨ d < 0 then n.noObstacleStatus speed now
      else n.obstacleStatus d speed now

def onScan (scan : LaserScan α) (now : ℤ) : EnvelopeStatusMsg α :=
  n.publishEnvelope (n.nearestObstacleInFootprintCorridor scan) (stdMax 0 n.latestSpeedMps) now

/-- The node driven by its callbacks. Only `on_scan` publishes. -/
def component : Component (SafetyEnvelopeNode α) (Event α) (Option (EnvelopeStatusMsg α)) where
  next n
    | .odom linearX => n.onOdom linearX
    | .scan _ _ => n
  output n
    | .odom _ => none
    | .scan msg now => some (n.onScan msg now)

/-- A run changes nothing but the measured speed, which is the last one received. -/
theorem run_eq_onOdom (es : List (Event α)) :
    component.run n es = n.onOdom ((lastValue Event.linearX? es).getD n.latestSpeedMps) := by
  induction es using List.reverseRecOn with
  | nil => rfl
  | append_singleton es e ih =>
      rw [Component.run_concat, lastValue_concat, ih]
      cases e <;> rfl

end Callbacks

end SafetyEnvelopeNode

end SafetyCore
