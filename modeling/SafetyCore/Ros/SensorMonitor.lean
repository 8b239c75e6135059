import Mathlib.Algebra.Order.Floor.Semiring
import SafetyCore.Arithmetic.Comparison
import SafetyCore.Ros.SensorRecovery
import SafetyCore.Ros.TimeUtils
import SafetyCore.Transition.Component

/-!
# The sensor monitor node

`SensorMonitorNode` records when the messages of four sensors arrive. A timer tick
classifies each sensor by its message rate and the age of its last message, publishes the
four results and a summary of them, and keeps the results for the metrics. `component` is
the node driven by its callbacks, with the clock readings of a callback in its event. Log
lines and message headers are output only and are left out.
-/

namespace Arithmetic

/-- The casts of a `double` to `std::uint64_t` and to `float`. -/
class Casts (α : Type*) where
  truncate : α → UInt64
  single : α → α

/-- In exact arithmetic a `float` keeps its value. -/
instance Casts.ofField {K : Type*} [Field K] [LinearOrder K] [FloorSemiring K] : Casts K where
  truncate x := UInt64.ofNat ⌊x⌋₊
  single x := x

end Arithmetic

namespace SafetyCore

open Arithmetic Transition

namespace TimeUtils

variable {α : Type*} [Mul α] [OfScientific α]

def secondsToNanoseconds [Casts α] (seconds : α) : UInt64 := Casts.truncate (seconds * 1e9)

def nanosecondsToSeconds [NatCast α] (nanoseconds : UInt64) : α :=
  (nanoseconds.toNat : α) * 1e-9

end TimeUtils

/-! ## Messages -/

/-- The `SensorHealth` message. -/
structure SensorHealthMsg (α : Type*) where
  sensorName : String
  status : UInt8
  updateRateHz : α
  expectedRateHz : α
  dataAgeS : α
  errorRate : α
  detail : String
  deriving DecidableEq, Repr

/-- The `SensorHealthMetrics` message. -/
structure SensorHealthMetrics (α : Type*) where
  sensorName : String
  avgUpdateRateHz : α
  minUpdateRateHz : α
  healthyPercentage : α
  degradedPercentage : α
  faultPercentage : α
  transitionCount : UInt32
  windowDurationSec : Int32
  windowDurationNanosec : UInt32
  deriving DecidableEq, Repr

/-! ## Trackers -/

structure StatusSample (α : Type*) where
  timestampNs : UInt64
  status : UInt8
  updateRateHz : α
  deriving DecidableEq, Repr

/-- The two queues are lists with their front first. -/
structure SensorTracker (α : Type*) where
  sensorName : String
  expectedRateHz : α
  lastMsgTimeNs : UInt64 := 0
  msgTimes : List UInt64 := []
  statusHistory : List (StatusSample α) := []
  deriving DecidableEq, Repr

structure SensorMonitorParams (α : Type*) [OfScientific α] where
  lidarExpectedRate : α := 10.0
  imuExpectedRate : α := 100.0
  gpsExpectedRate : α := 10.0
  odometryExpectedRate : α := 50.0
  publishPeriodS : α := 1.0
  healthyThreshold : α := 0.8
  degradedThreshold : α := 0.5
  metricsWindowS : α := 60.0
  deriving DecidableEq, Repr

namespace SensorTracker

section Queues

variable {α : Type*} (tracker : SensorTracker α)

def recordMessage (nowNs : UInt64) : SensorTracker α :=
  { tracker with lastMsgTimeNs := nowNs, msgTimes := tracker.msgTimes ++ [nowNs] }

def recordStatusSample (nowNs : UInt64) (status : UInt8) (updateRateHz : α) :
    SensorTracker α :=
  { tracker with
    statusHistory := tracker.statusHistory ++ [⟨nowNs, status, updateRateHz⟩] }

/-- Before this time the two queues are pruned. -/
def cutoffNs [Mul α] [OfScientific α] [Casts α] (nowNs : UInt64) (windowS : α) : UInt64 :=
  let windowNs := TimeUtils.secondsToNanoseconds windowS
  if nowNs ≥ windowNs then nowNs - windowNs else 0

variable [Mul α] [OfScientific α] [Casts α]

def pruneWindow (nowNs : UInt64) (windowS : α) : SensorTracker α :=
  { tracker with
    msgTimes := tracker.msgTimes.dropWhile (· < cutoffNs nowNs windowS) }

def pruneStatusHistory (nowNs : UInt64) (metricsWindowS : α) : SensorTracker α :=
  { tracker with
    statusHistory := tracker.statusHistory.dropWhile fun sample =>
      sample.timestampNs < cutoffNs nowNs metricsWindowS }

end Queues

/-! ## The health of a sensor -/

section Health

variable {α : Type*} [Zero α] [Add α] [Sub α] [Mul α] [Div α] [OfScientific α] [NatCast α]
  [LT α] [DecidableLT α] [LE α] [DecidableLE α] (params : SensorMonitorParams α)
  (tracker : SensorTracker α)

def updateRateHz : α :=
  if !tracker.msgTimes.isEmpty && 0 < params.publishPeriodS then
    (tracker.msgTimes.length : α) / params.publishPeriodS
  else
    0.0

def errorRate : α :=
  let expectedMsgs := tracker.expectedRateHz * params.publishPeriodS
  let actualMsgs := tracker.updateRateHz params * params.publishPeriodS
  let errorRate :=
    if 0 < expectedMsgs then stdMax 0 ((expectedMsgs - actualMsgs) / expectedMsgs) else 0.0
  stdMin errorRate 1.0

def rateRatio : α :=
  if 0 < tracker.expectedRateHz then tracker.updateRateHz params / tracker.expectedRateHz
  else 0.0

def expectedPeriodS : α :=
  if 0 < tracker.expectedRateHz then 1.0 / tracker.expectedRateHz else 0.0

/-- The status of a sensor that has sent messages, and its detail. -/
def classify (dataAgeS : α) : UInt8 × String :=
  let rateRatio := tracker.rateRatio params
  if params.healthyThreshold ≤ rateRatio && dataAgeS < 2.0 * tracker.expectedPeriodS then
    (SensorHealth.healthy, "Sensor operating normally")
  else if params.degradedThreshold ≤ rateRatio &&
      dataAgeS < 5.0 * tracker.expectedPeriodS then
    (SensorHealth.degraded, "Sensor performance degraded")
  else if rateRatio < params.degradedThreshold then
    (SensorHealth.fault, "Update rate below threshold")
  else
    (SensorHealth.fault, "Data age exceeds threshold")

def buildSensorMsg (nowNs : UInt64) : SensorHealthMsg α :=
  if tracker.lastMsgTimeNs = 0 then
    { sensorName := tracker.sensorName
      status := SensorHealth.unknown
      updateRateHz := 0.0
      expectedRateHz := tracker.expectedRateHz
      dataAgeS := 0.0
      errorRate := 1.0
      detail := "No messages received" }
  else
    let dataAgeS :=
      TimeUtils.nanosecondsToSeconds (TimeUtils.calculateAgeNs tracker.lastMsgTimeNs nowNs)
    { sensorName := tracker.sensorName
      status := (tracker.classify params dataAgeS).1
      updateRateHz := tracker.updateRateHz params
      expectedRateHz := tracker.expectedRateHz
      dataAgeS := dataAgeS
      errorRate := tracker.errorRate params
      detail := (tracker.classify params dataAgeS).2 }

end Health

/-! ## The metrics of a sensor -/

section Metrics

variable {α : Type*} [Zero α] [Add α] [Mul α] [Div α] [OfScientific α] [NatCast α]
  [LT α] [DecidableLT α] [Casts α]

/-- The largest finite `double`. -/
def maxDouble : α := 1.7976931348623157e308

/-- The sums of the loop over the history. -/
structure StatusTimes (α : Type*) where
  healthyTimeS : α
  degradedTimeS : α
  faultTimeS : α
  transitions : UInt32

/-- A sample lasts until the next one, and the last sample until now. -/
def durationNs (nowNs : UInt64) (sample : StatusSample α) :
    List (StatusSample α) → UInt64
  | [] => nowNs - sample.timestampNs
  | next :: _ => next.timestampNs - sample.timestampNs

def StatusTimes.addDuration (times : StatusTimes α) (status : UInt8) (durationS : α) :
    StatusTimes α :=
  if status = SensorHealth.healthy then
    { times with healthyTimeS := times.healthyTimeS + durationS }
  else if status = SensorHealth.degraded then
    { times with degradedTimeS := times.degradedTimeS + durationS }
  else if status = SensorHealth.fault then
    { times with faultTimeS := times.faultTimeS + durationS }
  else
    times

def StatusTimes.addTransition (times : StatusTimes α) (previous : Option UInt8)
    (status : UInt8) : StatusTimes α :=
  if previous.any (· ≠ status) then { times with transitions := times.transitions + 1 }
  else times

/-- The loop over the history, from the sample after one of the status `previous`. -/
def statusTimes (nowNs : UInt64) : Option UInt8 → List (StatusSample α) → StatusTimes α →
    StatusTimes α
  | _, [], times => times
  | previous, sample :: rest, times =>
      let durationS := TimeUtils.nanosecondsToSeconds (durationNs nowNs sample rest)
      statusTimes nowNs (some sample.status) rest
        ((times.addDuration sample.status durationS).addTransition previous sample.status)

variable (params : SensorMonitorParams α) (tracker : SensorTracker α)

def buildMetricsMsg (nowNs : UInt64) : SensorHealthMetrics α :=
  match tracker.statusHistory with
  | [] =>
      { sensorName := tracker.sensorName
        avgUpdateRateHz := 0.0
        minUpdateRateHz := 0.0
        healthyPercentage := 0.0
        degradedPercentage := 0.0
        faultPercentage := 0.0
        transitionCount := 0
        windowDurationSec := 0
        windowDurationNanosec := 0 }
  | front :: rest =>
      let history := front :: rest
      let totalRate := history.foldl (fun total sample => total + sample.updateRateHz) 0
      let minRate := history.foldl (fun least sample =>
        if sample.updateRateHz < least then sample.updateRateHz else least) maxDouble
      let times := statusTimes nowNs none history ⟨0, 0, 0, 0⟩
      let totalWindowNs := nowNs - front.timestampNs
      let totalWindowS : α := TimeUtils.nanosecondsToSeconds totalWindowNs
      let percentage (status : UInt8) (timeS : α) : α :=
        if 0 < totalWindowS then Casts.single (timeS / totalWindowS * 100.0)
        else if front.status = status then 100.0 else 0.0
      let actualWindowNs :=
        min totalWindowNs (TimeUtils.secondsToNanoseconds params.metricsWindowS)
      { sensorName := tracker.sensorName
        avgUpdateRateHz := Casts.single (totalRate / (history.length : α))
        minUpdateRateHz := Casts.single minRate
        healthyPercentage := percentage SensorHealth.healthy times.healthyTimeS
        degradedPercentage := percentage SensorHealth.degraded times.degradedTimeS
        faultPercentage := percentage SensorHealth.fault times.faultTimeS
        transitionCount := times.transitions
        windowDurationSec := (actualWindowNs / 1000000000).toInt64.toInt32
        windowDurationNanosec := (actualWindowNs % 1000000000).toUInt32 }

end Metrics

end SensorTracker

/-! ## The node -/

inductive Sensor
  | lidar
  | imu
  | gps
  | odometry
  deriving DecidableEq, Repr

namespace Sensor

/-- The sensors in the order in which they are published. -/
def all : List Sensor := [.lidar, .imu, .gps, .odometry]

theorem mem_all (sensor : Sensor) : sensor ∈ all := by
  cases sensor <;> decide

def name : Sensor → String
  | .lidar => "lidar"
  | .imu => "imu"
  | .gps => "gps"
  | .odometry => "odometry"

theorem name_ne_all (sensor : Sensor) : sensor.name ≠ "all" := by
  cases sensor <;> decide

def expectedRate {α : Type*} [OfScientific α] (params : SensorMonitorParams α) : Sensor → α
  | .lidar => params.lidarExpectedRate
  | .imu => params.imuExpectedRate
  | .gps => params.gpsExpectedRate
  | .odometry => params.odometryExpectedRate

end Sensor

structure SensorMonitorNode (α : Type*) [OfScientific α] where
  params : SensorMonitorParams α
  trackers : Sensor → SensorTracker α
  startupTimeNs : ℤ

namespace SensorMonitorNode

/-- What the node publishes. -/
inductive Publication (α : Type*)
  | health (msg : SensorHealthMsg α)
  | metrics (msg : SensorHealthMetrics α)
  deriving DecidableEq, Repr

/-- The callbacks of the node with their clock readings: a tick reads the clock once for the
time since the start, and again for what it publishes. -/
inductive Event
  | message (sensor : Sensor) (nowNs : UInt64)
  | timerTick (clockNs : ℤ) (nowNs : UInt64)
  | publishMetrics (nowNs : UInt64)
  deriving DecidableEq, Repr

section Callbacks

variable {α : Type*} [Zero α] [Add α] [Sub α] [Mul α] [Div α] [OfScientific α] [NatCast α]
  [IntCast α] [LT α] [DecidableLT α] [LE α] [DecidableLE α] [Casts α]

def kStartupGracePeriodS : α := 2.0

/-- The check of a threshold. -/
def clampThreshold (threshold : α) : α :=
  if threshold < 0 ∨ 1.0 < threshold then stdClamp threshold 0 1.0 else threshold

/-- The constructor, with the parameters that it loads. -/
def create (loaded : SensorMonitorParams α) (startupTimeNs : ℤ) :
    Except String (SensorMonitorNode α) :=
  if loaded.publishPeriodS ≤ 0 then
    .error "publish_period_s must be positive"
  else if loaded.metricsWindowS ≤ 0 then
    .error "metrics_window_s must be positive"
  else
    let params :=
      { loaded with
        healthyThreshold := clampThreshold loaded.healthyThreshold
        degradedThreshold := clampThreshold loaded.degradedThreshold }
    .ok
      { params := params
        trackers := fun sensor =>
          { sensorName := sensor.name, expectedRateHz := sensor.expectedRate params }
        startupTimeNs := startupTimeNs }

variable (n : SensorMonitorNode α)

def updateTracker (sensor : Sensor) (f : SensorTracker α → SensorTracker α) :
    SensorMonitorNode α :=
  { n with
    trackers := fun other => if other = sensor then f (n.trackers other) else n.trackers other }

def updateTrackers (f : SensorTracker α → SensorTracker α) : SensorMonitorNode α :=
  { n with trackers := fun sensor => f (n.trackers sensor) }

/-- `on_scan`, `on_imu`, `on_gps` and `on_odom`. -/
def onMessage (sensor : Sensor) (nowNs : UInt64) : SensorMonitorNode α :=
  n.updateTracker sensor (·.recordMessage nowNs)

/-- The queues of a tick, before it publishes. -/
def prune (nowNs : UInt64) : SensorMonitorNode α :=
  n.updateTrackers fun tracker =>
    (tracker.pruneWindow nowNs n.params.publishPeriodS).pruneStatusHistory nowNs
      n.params.metricsWindowS

def sensorMsg (nowNs : UInt64) (sensor : Sensor) : SensorHealthMsg α :=
  (n.trackers sensor).buildSensorMsg n.params nowNs

def recordStatusSamples (nowNs : UInt64) : SensorMonitorNode α :=
  n.updateTrackers fun tracker =>
    let msg := tracker.buildSensorMsg n.params nowNs
    tracker.recordStatusSample nowNs msg.status msg.updateRateHz

/-- The lambda `evaluate_tracker`, on the worst status so far and its detail. -/
def evaluateTracker (nowNs : UInt64) (worst : UInt8 × String) (sensor : Sensor) :
    UInt8 × String :=
  let msg := n.sensorMsg nowNs sensor
  if msg.status > worst.1 then (msg.status, (n.trackers sensor).sensorName ++ ": " ++ msg.detail)
  else worst

def worstStatus (nowNs : UInt64) : UInt8 × String :=
  Sensor.all.foldl (n.evaluateTracker nowNs) (SensorHealth.unknown, "")

def summaryMsg (nowNs : UInt64) : SensorHealthMsg α :=
  let worst := n.worstStatus nowNs
  { sensorName := "all"
    status := worst.1
    updateRateHz := 0.0
    expectedRateHz := 0.0
    dataAgeS := 0.0
    errorRate := 0.0
    detail := if worst.2.isEmpty then "All sensors unknown" else worst.2 }

/-- The grace period after the start is not over. -/
def inGracePeriod (clockNs : ℤ) : Bool :=
  ((clockNs - n.startupTimeNs : ℤ) : α) / 1e9 < (kStartupGracePeriodS : α)

def timerTick (clockNs : ℤ) (nowNs : UInt64) :
    SensorMonitorNode α × List (Publication α) :=
  if n.inGracePeriod clockNs then
    (n, [])
  else
    let pruned := n.prune nowNs
    let published := pruned.recordStatusSamples nowNs
    (published, (Sensor.all.map fun sensor => .health (pruned.sensorMsg nowNs sensor)) ++
      [.health (published.summaryMsg nowNs)])

def publishMetrics (nowNs : UInt64) : SensorMonitorNode α × List (Publication α) :=
  let pruned := n.updateTrackers (·.pruneStatusHistory nowNs n.params.metricsWindowS)
  (pruned, Sensor.all.map fun sensor =>
    .metrics ((pruned.trackers sensor).buildMetricsMsg n.params nowNs))

def component : Component (SensorMonitorNode α) Event (List (Publication α)) where
  next n
    | .message sensor nowNs => n.onMessage sensor nowNs
    | .timerTick clockNs nowNs => (n.timerTick clockNs nowNs).1
    | .publishMetrics nowNs => (n.publishMetrics nowNs).1
  output n
    | .message _ _ => []
    | .timerTick clockNs nowNs => (n.timerTick clockNs nowNs).2
    | .publishMetrics nowNs => (n.publishMetrics nowNs).2

end Callbacks

end SensorMonitorNode

end SafetyCore
