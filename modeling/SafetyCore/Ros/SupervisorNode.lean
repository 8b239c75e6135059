import Mathlib.Tactic.NormNum
import SafetyCore.Ros.SensorRecovery
import SafetyCore.Ros.SpeedLimit
import SafetyCore.Ros.TimeUtils
import SafetyCore.Safety.Envelope
import SafetyCore.Safety.Supervisor
import SafetyCore.Transition.Component

/-!
# The safety supervisor node

`SafetySupervisorNode` owns the mode state machine and the safety supervisor and
moves them with its callbacks: envelope zones, odometry stamps, sensor health,
fault clearing and a periodic tick. `component` is the node as a component whose
events are these callbacks. A callback that reads the clock several times has
all its readings in its event, and a tick has the order in which it scans the
hash map of the sensors.

The timeouts are kept in nanoseconds; any 64-bit count stands for the conversion
of a parameter in seconds. Log lines, diagnostic events, message headers and the
tick telemetry are output only and are left out.
-/

namespace SafetyCore

open Transition

/-- The fields of the message that are set from the state of the node. -/
structure SafetyState where
  mode : Mode
  faultLatched : Bool
  faultCode : UInt16
  zone : SafetyZone
  safeStopRequested : Bool
  deriving DecidableEq, Repr

structure SafetySupervisorNode (α : Type*) where
  machine : ModeStateMachine
  supervisor : SafetySupervisor
  latestZone : SafetyZone
  lastOdomTimeNs : Option UInt64
  safeStopRequested : Bool
  recoveryMgr : SensorRecoveryManager
  speedCtrl : SpeedLimitController α
  deriving DecidableEq, Repr

namespace SafetySupervisorNode

structure Params (α : Type*) [Zero α] [LE α] where
  autoRecoverFromObstacle : Bool
  localizationTimeoutNs : UInt64
  sensorTimeoutNs : UInt64
  recoveryTimeoutNs : UInt64
  recoverySpeedRampNs : UInt64
  maxSpeedMps : α
  maxSpeedMps_valid : ¬ maxSpeedMps ≤ 0

theorem maxSpeedMps_default_valid : ¬ (1.5 : ℚ) ≤ 0 := by norm_num

/-- The defaults of the constructor pass its checks. -/
def Params.default : Params ℚ where
  autoRecoverFromObstacle := true
  localizationTimeoutNs := 500000000
  sensorTimeoutNs := 1000000000
  recoveryTimeoutNs := 10000000000
  recoverySpeedRampNs := 5000000000
  maxSpeedMps := 1.5
  maxSpeedMps_valid := maxSpeedMps_default_valid

/-- The callbacks of the node with their messages and clock readings. -/
inductive Event
  | envelope (zone : UInt8)
  | odom (sec : Int32) (nanosec : UInt32)
  | sensorHealth (sensorName : String) (status : UInt8) (now nowRecovered : UInt64)
  | clearFault
  | timerTick (now nowLocalization nowHealth : UInt64) (order : List String)
  deriving DecidableEq, Repr

/-- What a callback sends: a tick its three messages, the service its
response. -/
inductive Output (α : Type*)
  | nothing
  | tick (recoverySpeedLimit : α) (state : SafetyState) (safeStop : Bool)
  | response (success : Bool) (message : String)
  deriving DecidableEq, Repr

section Callbacks

variable {α : Type*} [Zero α] [Add α] [Sub α] [Mul α] [Div α] [OfScientific α]
  [NatCast α] [LE α] (p : Params α) (n : SafetySupervisorNode α)

/-- The machine of the constructor: attached to a monitor, cleared if it is
latched, and sent to `Idle`. -/
def initialMachine : ModeStateMachine :=
  let m : ModeStateMachine := { monitor := some [] }
  let m := if m.latchedFault then m.clearFault.1 else m
  (m.transitionTo .idle).1

def initial : SafetySupervisorNode α where
  machine := initialMachine
  supervisor := {}
  latestZone := .clear
  lastOdomTimeNs := none
  safeStopRequested := false
  recoveryMgr := {}
  speedCtrl := SpeedLimitController.create p.maxSpeedMps p.recoverySpeedRampNs

/-- The three lines that follow every fault the node itself detects. -/
def stopWithFault (faultCode : UInt16) : SafetySupervisorNode α :=
  { n with
    machine := ((n.machine.latchFault faultCode).1.transitionTo .safeStop).1
    safeStopRequested := true }

def onOdom (sec : Int32) (nanosec : UInt32) : SafetySupervisorNode α :=
  let stampNs := sec.toInt64.toUInt64 * 1000000000 + nanosec.toUInt64
  { n with lastOdomTimeNs := some stampNs }

def handleZoneTransition (newZone : SafetyZone) : SafetySupervisorNode α :=
  let currentMode := n.machine.mode
  match newZone with
  | .clear | .warning =>
      if currentMode = .avoidingObstacle && p.autoRecoverFromObstacle then
        { n with
          machine := (n.machine.transitionTo .moving).1
          safeStopRequested := false }
      else
        n
  | .protective =>
      if currentMode = .moving then
        { n with machine := n.machine.requestObstacleHold.1 }
      else
        n
  | .emergency => n.stopWithFault 0xE001
  | .other _ => n

def onEnvelope (zone : UInt8) : SafetySupervisorNode α :=
  let n := { n with latestZone := SafetyZone.ofRaw zone }
  let currentMode := n.machine.mode
  let n :=
    if currentMode = .idle && n.latestZone = .clear then
      { n with
        machine := (n.machine.transitionTo .moving).1
        safeStopRequested := false }
    else
      n
  n.handleZoneTransition p n.latestZone

def handleSensorDegraded : SafetySupervisorNode α :=
  let currentMode := n.machine.mode
  let n :=
    if currentMode = .moving then
      { n with machine := (n.machine.transitionTo .degraded).1 }
    else
      n
  { n with
    recoveryMgr := n.recoveryMgr.setDegradedMode true
    speedCtrl := n.speedCtrl.onDegraded }

def handleSensorRecovered (now : UInt64) : SafetySupervisorNode α :=
  if !n.recoveryMgr.isAnyDegraded then
    let currentMode := n.machine.mode
    let n :=
      if currentMode = .degraded then
        { n with machine := (n.machine.transitionTo .moving).1 }
      else
        n
    { n with
      recoveryMgr := n.recoveryMgr.setDegradedMode false
      speedCtrl := n.speedCtrl.onRecovered now }
  else
    n

def onSensorHealth (sensorName : String) (status : UInt8)
    (now nowRecovered : UInt64) : SafetySupervisorNode α :=
  if sensorName = "all" then
    { n with recoveryMgr := n.recoveryMgr.updateSummary status now }
  else
    let result := n.recoveryMgr.processHealthMsg sensorName status now
    let n := { n with recoveryMgr := result.1 }
    match result.2 with
    | .kDegraded => n.handleSensorDegraded
    | .kRecovered => n.handleSensorRecovered nowRecovered
    | .kNone => n

def checkLocalizationStaleness (now : UInt64) : SafetySupervisorNode α :=
  match n.lastOdomTimeNs with
  | none => n
  | some lastOdom =>
      let ageNs := TimeUtils.calculateAgeNs lastOdom now
      let machine := (SafetySupervisor.observeLocalizationAge (some n.machine) ageNs
        p.localizationTimeoutNs).1.getD n.machine
      let currentMode := machine.mode
      if TimeUtils.isStale lastOdom now p.localizationTimeoutNs &&
          currentMode ≠ .localizationLost && currentMode ≠ .safeStop then
        { n with machine := machine.reportLocalizationLost.1 }
      else
        { n with machine := machine }

def checkSensorHealth (now : UInt64) : SafetySupervisorNode α :=
  let currentMode := n.machine.mode
  if currentMode = .safeStop then
    n
  else
    match n.recoveryMgr.lastSensorHealthTimeNs with
    | none => n
    | some lastHealth =>
        if TimeUtils.isStale lastHealth now p.sensorTimeoutNs then
          n
        else if n.recoveryMgr.worstSensorStatus = SensorHealth.fault then
          -- the source tests the mode for `SafeStop` once more here
          let n := n.stopWithFault 0xE002
          { n with recoveryMgr := n.recoveryMgr.setDegradedMode false }
        else if n.recoveryMgr.worstSensorStatus = SensorHealth.degraded then
          if currentMode = .moving && !n.recoveryMgr.inDegradedMode then
            { n with
              machine := (n.machine.transitionTo .degraded).1
              recoveryMgr := n.recoveryMgr.setDegradedMode true }
          else
            n
        else if n.recoveryMgr.worstSensorStatus = SensorHealth.healthy &&
            n.recoveryMgr.inDegradedMode then
          if currentMode = .degraded then
            { n with
              machine := (n.machine.transitionTo .moving).1
              recoveryMgr := n.recoveryMgr.setDegradedMode false }
          else
            n
        else
          n

def checkSensorRecoveryTimeouts (now : UInt64) (order : List String) :
    SafetySupervisorNode α :=
  let currentMode := n.machine.mode
  if currentMode = .safeStop then
    n
  else
    let result := n.recoveryMgr.checkTimeouts now p.recoveryTimeoutNs order
    let n := { n with recoveryMgr := result.1 }
    if result.2 ≠ "" then
      let n := n.stopWithFault 0xE003
      { n with recoveryMgr := n.recoveryMgr.setDegradedMode false }
    else
      n

def updateSpeedLimit (now : UInt64) : SafetySupervisorNode α :=
  let safeStop : Bool := n.machine.mode = .safeStop
  { n with speedCtrl := n.speedCtrl.update now safeStop }

def observeClockSample (now : UInt64) : SafetySupervisorNode α :=
  let result := n.supervisor.observeClockSample (some n.machine) now
  { n with supervisor := result.1, machine := result.2.1.getD n.machine }

def buildStateMsg (currentMode : Mode) : SafetyState where
  mode := currentMode
  faultLatched := n.machine.latchedFault
  faultCode := 0
  zone := n.latestZone
  safeStopRequested := n.safeStopRequested || currentMode = .safeStop

/-- The checks of a tick, in order. The messages are sent afterwards from the
node they leave, except for the mode, which is the one the tick began with. -/
def timerTick (now nowLocalization nowHealth : UInt64) (order : List String) :
    SafetySupervisorNode α × Output α :=
  let currentMode := n.machine.mode
  let n := n.checkLocalizationStaleness p nowLocalization
  let n := n.checkSensorHealth p nowHealth
  let n := n.checkSensorRecoveryTimeouts p now order
  let n := n.updateSpeedLimit now
  let n := n.observeClockSample now
  (n, .tick n.speedCtrl.currentLimitMps (n.buildStateMsg currentMode)
    (n.safeStopRequested || currentMode = .safeStop))

def onClearFault : SafetySupervisorNode α × Output α :=
  let result := n.machine.clearFault
  let n := { n with machine := result.1 }
  if result.2.isOk then
    ({ n with safeStopRequested := false },
      .response true "Fault cleared successfully")
  else
    (n, .response false result.2.message)

/-- The node driven by its callbacks. -/
def component : Component (SafetySupervisorNode α) Event (Output α) where
  next n
    | .envelope zone => n.onEnvelope p zone
    | .odom sec nanosec => n.onOdom sec nanosec
    | .sensorHealth sensorName status now nowRecovered =>
        n.onSensorHealth sensorName status now nowRecovered
    | .clearFault => n.onClearFault.1
    | .timerTick now nowLocalization nowHealth order =>
        (n.timerTick p now nowLocalization nowHealth order).1
  output n
    | .clearFault => n.onClearFault.2
    | .timerTick now nowLocalization nowHealth order =>
        (n.timerTick p now nowLocalization nowHealth order).2
    | _ => .nothing

end Callbacks

end SafetySupervisorNode

end SafetyCore
