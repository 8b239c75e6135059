import SafetyCore.Arithmetic.Exponential
import SafetyCore.Ros.SensorMonitor

/-!
# The slip detector node

`SlipDetectorNode` integrates the forward acceleration of the IMU to a speed that decays over
time, and compares it with the speed of the wheels. A timer tick publishes the comparison of the
last two messages as a `SlipDetected` and as a `SensorHealth`. `component` is the node driven by
its callbacks. The clock is read for message headers only; these and the log lines are left out.
-/

namespace Arithmetic

/-- `std::to_string` of a `double`. -/
class DecimalText (α : Type*) where
  stdToString : α → String

export DecimalText (stdToString)

/-- Six digits after the point, the last one rounded to even on a tie. -/
instance DecimalText.ofField {K : Type*} [Field K] [LinearOrder K] [FloorSemiring K] :
    DecimalText K where
  stdToString x :=
    let scaled := stdAbs x * 1e6
    let below := ⌊scaled⌋₊
    let rest := scaled - below
    let micros := if rest < 0.5 ∨ rest = 0.5 ∧ below % 2 = 0 then below else below + 1
    let digits := toString (micros % 1000000)
    (if x < 0 then "-" else "") ++ toString (micros / 1000000) ++ "." ++
      "".pushn '0' (6 - digits.length) ++ digits

end Arithmetic

namespace SafetyCore

open Arithmetic Transition

/-! ## Messages -/

/-- The stamp of a header. -/
structure Stamp where
  sec : Int32
  nanosec : UInt32
  deriving DecidableEq, Repr

namespace Stamp

/-- The nanoseconds of an `rclcpp::Time`. -/
def ns (stamp : Stamp) : ℤ := stamp.sec.toInt * 1000000000 + (stamp.nanosec.toNat : ℤ)

variable {α : Type*} [Add α] [Mul α] [Div α] [OfScientific α] [NatCast α] [IntCast α]

def seconds (stamp : Stamp) : α :=
  (stamp.sec.toInt : α) + (stamp.nanosec.toNat : α) * 1e-9

/-- The seconds of the duration from one time to another. -/
def secondsSince (stamp earlier : Stamp) : α := ((stamp.ns - earlier.ns : ℤ) : α) / 1e9

end Stamp

/-- The fields of an `Odometry` that the node reads. -/
structure Odometry (α : Type*) where
  stamp : Stamp
  linearX : α
  angularZ : α
  deriving DecidableEq, Repr

/-- The fields of an `Imu` that the node reads. -/
structure Imu (α : Type*) where
  stamp : Stamp
  linearAccelerationX : α
  angularVelocityZ : α
  deriving DecidableEq, Repr

structure SlipDetected (α : Type*) where
  isSlipping : Bool
  slipMagnitude : α
  slipRatio : α
  detail : String
  deriving DecidableEq, Repr

/-! ## The node -/

structure SlipDetectorParams (α : Type*) [OfScientific α] where
  slipThresholdMps : α := 0.1
  angularSlipThresholdRadps : α := 0.3
  imuVelDecayTimeS : α := 2.0
  publishPeriodS : α := 0.1
  maxImuAgeS : α := 0.05
  stationaryThresholdMps : α := 0.01
  deriving DecidableEq, Repr

structure SlipDetectorNode (α : Type*) [OfScientific α] where
  params : SlipDetectorParams α
  latestOdom : Option (Odometry α)
  latestImu : Option (Imu α)
  imuVelX : α
  /-- The `last_imu_time_`, if there is one. -/
  lastImuTime : Option Stamp
  isSlipping : Bool
  lastSlipMagnitude : α
  lastSlipRatio : α
  lastDetail : String
  deriving DecidableEq, Repr

namespace SlipDetectorNode

/-- The callbacks of the node with their messages. An IMU stamp before the epoch, on which
`rclcpp::Time` throws, is not among them. -/
inductive Event (α : Type*)
  | odom (msg : Odometry α)
  | imu (msg : Imu α) (stamp_valid : 0 ≤ msg.stamp.sec.toInt)
  | timerTick

section Node

variable {α : Type*} [Zero α] [Add α] [Sub α] [Mul α] [Div α] [Neg α] [OfScientific α]
  [NatCast α] [IntCast α] [LT α] [DecidableLT α] [LE α] [DecidableLE α] [Casts α]
  [Exponential α] [DecimalText α]

/-- The constructor, with the parameters that it loads. -/
def create (loaded : SlipDetectorParams α) : Except String (SlipDetectorNode α) :=
  let params :=
    { loaded with
      slipThresholdMps := if loaded.slipThresholdMps < 0 then 0 else loaded.slipThresholdMps
      angularSlipThresholdRadps :=
        if loaded.angularSlipThresholdRadps < 0 then 0 else loaded.angularSlipThresholdRadps }
  if params.imuVelDecayTimeS ≤ 0 then
    .error "imu_vel_decay_time_s must be positive"
  else if params.publishPeriodS ≤ 0 then
    .error "publish_period_s must be positive"
  else
    .ok
      { params := params
        latestOdom := none
        latestImu := none
        imuVelX := 0
        lastImuTime := none
        isSlipping := false
        lastSlipMagnitude := 0
        lastSlipRatio := 0
        lastDetail := "" }

variable (n : SlipDetectorNode α)

def updateImuVelocityEstimate (msg : Imu α) (dt : α) : SlipDetectorNode α :=
  if dt ≤ 0 ∨ 0.5 < dt then
    n
  else
    let integrated := n.imuVelX + msg.linearAccelerationX * dt
    { n with imuVelX := integrated * exp (-dt / n.params.imuVelDecayTimeS) }

def onOdom (msg : Odometry α) : SlipDetectorNode α := { n with latestOdom := some msg }

def onImu (msg : Imu α) : SlipDetectorNode α :=
  let n := { n with latestImu := some msg }
  let n :=
    match n.lastImuTime with
    | some lastImuTime => n.updateImuVelocityEstimate msg (msg.stamp.secondsSince lastImuTime)
    | none => n
  { n with lastImuTime := some msg.stamp }

/-! ### The messages of a tick -/

def linearSlip (linearDiff : α) : Bool := n.params.slipThresholdMps < linearDiff

def angularSlip (angularDiff : α) : Bool := n.params.angularSlipThresholdRadps < angularDiff

/-- The magnitude and the detail, by the type of slip that dominates. -/
def slipOf (linearDiff angularDiff : α) (isSlipping : Bool) : α × String :=
  if isSlipping then
    if n.linearSlip linearDiff && n.angularSlip angularDiff then
      (stdMax linearDiff angularDiff, "combined slip")
    else if n.linearSlip linearDiff then
      (linearDiff, "linear slip")
    else
      (angularDiff, "angular slip")
  else
    (0.0, "no slip")

/-- The ratio to the speed of the wheels, in percent. -/
def slipRatioOf (slipMagnitude : α) (isSlipping : Bool) : α :=
  if isSlipping then
    let expectedSpeed :=
      match n.latestOdom with
      | some odom => stdAbs odom.linearX
      | none => 0.0
    if n.params.stationaryThresholdMps < expectedSpeed then
      slipMagnitude / expectedSpeed * 100.0
    else
      100.0
  else
    0.0

def buildSlipMsg (linearDiff angularDiff : α) (isSlipping : Bool) : SlipDetected α :=
  let slip := n.slipOf linearDiff angularDiff isSlipping
  { isSlipping := isSlipping
    slipMagnitude := Casts.single slip.1
    slipRatio := Casts.single (n.slipRatioOf slip.1 isSlipping)
    detail := slip.2 }

def buildHealthMsg (isSlipping : Bool) (detail : String) : SensorHealthMsg α where
  sensorName := "wheel_odometry"
  status := if isSlipping then SensorHealth.degraded else SensorHealth.healthy
  updateRateHz := 0.0
  expectedRateHz := 0.0
  dataAgeS := 0.0
  errorRate := if isSlipping then 1.0 else 0.0
  detail :=
    if isSlipping then if detail.isEmpty then "Wheel slip detected" else detail
    else "Wheel odometry consistent with IMU"

/-- The detail of the health message. -/
def healthDetail (linearDiff angularDiff : α) : String :=
  if n.linearSlip linearDiff && n.angularSlip angularDiff then
    "combined slip (linear: " ++ stdToString linearDiff ++ " m/s, angular: " ++
      stdToString angularDiff ++ " rad/s)"
  else if n.linearSlip linearDiff then
    "linear slip (diff: " ++ stdToString linearDiff ++ " m/s)"
  else if n.angularSlip angularDiff then
    "angular slip (diff: " ++ stdToString angularDiff ++ " rad/s)"
  else
    ""

/-- The comparison of two messages that are near enough in time. -/
def compare (odom : Odometry α) (imu : Imu α) :
    SlipDetectorNode α × (SlipDetected α × SensorHealthMsg α) :=
  let linearDiff := stdAbs (odom.linearX - n.imuVelX)
  let angularDiff := stdAbs (odom.angularZ - imu.angularVelocityZ)
  let isSlipping := n.linearSlip linearDiff || n.angularSlip angularDiff
  let slipMsg := n.buildSlipMsg linearDiff angularDiff isSlipping
  let detail := n.healthDetail linearDiff angularDiff
  ({ n with
      isSlipping := isSlipping
      lastSlipMagnitude := slipMsg.slipMagnitude
      lastSlipRatio := slipMsg.slipRatio
      lastDetail := detail },
    (slipMsg, buildHealthMsg isSlipping detail))

def timerTick : SlipDetectorNode α × Option (SlipDetected α × SensorHealthMsg α) :=
  match n.latestOdom, n.latestImu with
  | none, _ => (n, none)
  | some _, none => (n, none)
  | some odom, some imu =>
      let imuAge : α := stdAbs (odom.stamp.seconds - imu.stamp.seconds)
      if n.params.maxImuAgeS < imuAge then
        (n, none)
      else
        let compared := n.compare odom imu
        (compared.1, some compared.2)

/-- The node driven by its callbacks. -/
def component :
    Component (SlipDetectorNode α) (Event α) (Option (SlipDetected α × SensorHealthMsg α)) where
  next n
    | .odom msg => n.onOdom msg
    | .imu msg _ => n.onImu msg
    | .timerTick => n.timerTick.1
  output n
    | .timerTick => n.timerTick.2
    | _ => none

end Node

end SlipDetectorNode

end SafetyCore
