import SafetyCore.Ros.IsSafeCondition
import SafetyCore.Ros.Qos
import SafetyCore.Ros.SafetyEnvelope
import SafetyCore.Ros.SensorMonitor
import SafetyCore.Transition.Network

/-!
# The safety stack

The sensor monitor, the envelope node, the supervisor, the drive bridge and the condition of the
behavior tree, connected by the topics that they publish and subscribe to. The stack is a
`Network`, so its runs have every order of callbacks and every delay and loss of messages that
the middleware allows. Sensor messages, commands of the planner, timers and the fault service
come from outside.

A topic is left out if no node of the stack subscribes to it, as are the drive's `cmd_vel` and the
metrics.
-/

namespace SafetyCore

open Arithmetic Transition

/-- Parameters within their ranges are kept as they are loaded. -/
theorem SensorMonitorNode.create_eq_ok {K : Type*} [Field K] [LinearOrder K]
    {loaded : SensorMonitorParams K} (hpublish : 0 < loaded.publishPeriodS)
    (hmetrics : 0 < loaded.metricsWindowS)
    (hhealthy : 0 ≤ loaded.healthyThreshold ∧ loaded.healthyThreshold ≤ 1.0)
    (hdegraded : 0 ≤ loaded.degradedThreshold ∧ loaded.degradedThreshold ≤ 1.0)
    (startupTimeNs : ℤ) :
    SensorMonitorNode.create loaded startupTimeNs = .ok
      { params := loaded
        trackers := fun sensor =>
          { sensorName := sensor.name, expectedRateHz := sensor.expectedRate loaded }
        startupTimeNs := startupTimeNs } := by
  have hkept : ∀ threshold : K, 0 ≤ threshold ∧ threshold ≤ 1.0 →
      SensorMonitorNode.clampThreshold threshold = threshold := fun threshold h =>
    if_neg (not_or.2 ⟨not_lt.2 h.1, not_lt.2 h.2⟩)
  unfold SensorMonitorNode.create
  rw [if_neg (not_le.2 hpublish), if_neg (not_le.2 hmetrics), hkept _ hhealthy,
    hkept _ hdegraded]

namespace SafetyStack

inductive NodeId
  | monitor
  | envelope
  | supervisor
  | bridge
  | isSafe
  deriving DecidableEq, Repr

inductive Topic
  | sensorHealth
  | envelopeStatus
  | state
  | safeStop
  | recoverySpeedLimit
  deriving DecidableEq, Repr

inductive Message (α : Type)
  | sensorHealth (msg : SensorHealthMsg α)
  | envelopeStatus (msg : EnvelopeStatusMsg α)
  | state (msg : SafetyState)
  | safeStop (data : Bool)
  | recoverySpeedLimit (data : α)

def Message.topic {α : Type} : Message α → Topic
  | .sensorHealth _ => .sensorHealth
  | .envelopeStatus _ => .envelopeStatus
  | .state _ => .state
  | .safeStop _ => .safeStop
  | .recoverySpeedLimit _ => .recoverySpeedLimit

/-! ## The subscriptions -/

/-- The profiles of the subscriptions. -/
def subscription : NodeId → Topic → Option Qos
  | .supervisor, .sensorHealth => some QosConfig.sensorQos
  | .supervisor, .envelopeStatus => some QosConfig.sensorQos
  | .bridge, .envelopeStatus => some QosConfig.stateQos
  | .bridge, .state => some QosConfig.stateQos
  | .bridge, .safeStop => some QosConfig.stateQos
  | .bridge, .recoverySpeedLimit => some QosConfig.stateQos
  | .isSafe, .state => some { depth := 10, transientLocal := true }
  | _, _ => none

/-- The profiles of the publishers, which create all these topics with `state_qos`. -/
def publisher (_ : Topic) : Qos := QosConfig.stateQos

/-! ## The nodes -/

abbrev NodeState (α : Type) [OfScientific α] : NodeId → Type
  | .monitor => SensorMonitorNode α
  | .envelope => SafetyEnvelopeNode α
  | .supervisor => SafetySupervisorNode α
  | .bridge => SafetyDriveBridgeNode α
  | .isSafe => IsSafeCondition

abbrev NodeEvent (α : Type) : NodeId → Type
  | .monitor => SensorMonitorNode.Event
  | .envelope => SafetyEnvelopeNode.Event α
  | .supervisor => SafetySupervisorNode.Event
  | .bridge => SafetyDriveBridgeNode.Event α
  | .isSafe => IsSafeCondition.Event

abbrev NodeOutput (α : Type) : NodeId → Type
  | .monitor => List (SensorMonitorNode.Publication α)
  | .envelope => Option (EnvelopeStatusMsg α)
  | .supervisor => SafetySupervisorNode.Output α
  | .bridge => Option (Twist α)
  | .isSafe => Option NodeStatus

/-- The events that come from outside of the stack. The others are callbacks of topics. -/
def external {α : Type} : ∀ i, NodeEvent α i → Bool
  | .monitor, _ => true
  | .envelope, _ => true
  | .supervisor, .odom _ _ => true
  | .supervisor, .clearFault => true
  | .supervisor, .timerTick _ _ _ _ => true
  | .supervisor, _ => false
  | .bridge, .cmdVelNav _ _ => true
  | .bridge, .odom _ => true
  | .bridge, .controlTick _ => true
  | .bridge, _ => false
  | .isSafe, .tick _ _ => true
  | .isSafe, _ => false

/-- What a tick of the supervisor publishes, in the order of the source. -/
def publish {α : Type} : ∀ i, NodeOutput α i → List (Message α)
  | .monitor, published => published.filterMap fun
      | .health msg => some (.sensorHealth msg)
      | .metrics _ => none
  | .envelope, status => (status.map Message.envelopeStatus).toList
  | .supervisor, .tick recoverySpeedLimit state safeStop =>
      [.recoverySpeedLimit recoverySpeedLimit, .state state, .safeStop safeStop]
  | .supervisor, _ => []
  | .bridge, _ => []
  | .isSafe, _ => []

/-- The callback of a node for a message, which the supervisor runs with two clock readings for a
sensor. -/
def callback {α : Type} : ∀ i, Message α → UInt64 × UInt64 → Option (NodeEvent α i)
  | .supervisor, .sensorHealth msg, (now, nowRecovered) =>
      some (.sensorHealth msg.sensorName msg.status now nowRecovered)
  | .supervisor, .envelopeStatus msg, _ => some (.envelope msg.zone)
  | .bridge, .envelopeStatus msg, _ => some (.envelope msg.toEnvelopeStatus)
  | .bridge, .state msg, _ => some (.state msg.faultLatched)
  | .bridge, .safeStop data, _ => some (.safeStop data)
  | .bridge, .recoverySpeedLimit data, _ => some (.recoverySpeedLimit data)
  | .isSafe, .state msg, _ => some (.safetyState msg)
  | _, _, _ => none

structure Params (α : Type) [Zero α] [LE α] where
  supervisor : SafetySupervisorNode.Params α
  bridge : SafetyDriveBridgeNode.Params α
  /-- The rule of the middleware for an offered and a requested profile. -/
  compatible : Qos → Qos → Bool
  /-- The profiles that the publishers offer. -/
  offered : Topic → Qos := publisher

/-- The middleware connects the node to the topic. -/
def connected {α : Type} [Zero α] [LE α] (p : Params α) (i : NodeId) (t : Topic) : Bool :=
  (subscription i t).any fun requested => p.compatible (p.offered t) requested

section Stack

variable {α : Type} [Zero α] [Add α] [Sub α] [Mul α] [Div α] [Neg α] [OfScientific α]
  [NatCast α] [IntCast α] [LT α] [DecidableLT α] [LE α] [DecidableLE α] [FiniteTest α]
  [SquareRoot α] [Trigonometry α] [Casts α]

abbrev State (α : Type) [OfScientific α] : Type :=
  Network.State NodeId Topic (NodeState α) (Message α)

abbrev Event (α : Type) : Type := Network.Event NodeId (UInt64 × UInt64) (NodeEvent α)

def nodeComponent (p : Params α) :
    ∀ i, Component (NodeState α i) (NodeEvent α i) (NodeOutput α i)
  | .monitor => SensorMonitorNode.component
  | .envelope => SafetyEnvelopeNode.component
  | .supervisor => SafetySupervisorNode.component p.supervisor
  | .bridge => SafetyDriveBridgeNode.component p.bridge
  | .isSafe => IsSafeCondition.component

def network (p : Params α) :
    Network NodeId Topic (UInt64 × UInt64) (NodeState α) (NodeEvent α) (NodeOutput α)
      (Message α) where
  node := nodeComponent p
  external := external
  topic := Message.topic
  publish := publish
  accept i m c := if connected p i m.topic then callback i m c else none

/-- The stack as it is started, with a monitor and an envelope node that were constructed. -/
def initial (p : Params α) (monitor : SensorMonitorNode α) (envelope : SafetyEnvelopeNode α) :
    State α :=
  .start fun
    | .monitor => monitor
    | .envelope => envelope
    | .supervisor => SafetySupervisorNode.initial p.supervisor
    | .bridge => SafetyDriveBridgeNode.initial
    | .isSafe => IsSafeCondition.initial

/-- The stack after the events `es`. -/
def stateAfter (p : Params α) (monitor : SensorMonitorNode α) (envelope : SafetyEnvelopeNode α)
    (es : List (Event α)) : State α :=
  (network p).component.run (initial p monitor envelope) es

theorem stateAfter_append (p : Params α) (monitor : SensorMonitorNode α)
    (envelope : SafetyEnvelopeNode α) (es fs : List (Event α)) :
    stateAfter p monitor envelope (es ++ fs) =
      (network p).component.run (stateAfter p monitor envelope es) fs :=
  Component.run_append ..

theorem coherent_stateAfter (p : Params α) (monitor : SensorMonitorNode α)
    (envelope : SafetyEnvelopeNode α) (es : List (Event α)) :
    (network p).Coherent (stateAfter p monitor envelope es) :=
  Network.coherent_preserved.run (Network.coherent_start _) es

end Stack

/-! ## The stack of the bringup -/

section Bringup

theorem speed_valid : ¬ (1.5 : ℝ) ≤ 0 := by norm_num

theorem decel_valid : ¬ (1.0 : ℝ) ≤ 0 := by norm_num

theorem jerk_valid : ¬ (2.0 : ℝ) ≤ 0 := by norm_num

theorem period_valid : ¬ (0.05 : ℝ) ≤ 0 := by norm_num

/-- The parameters of `safety_params.yaml`. -/
noncomputable def bringup : Params ℝ where
  supervisor :=
    { autoRecoverFromObstacle := true
      localizationTimeoutNs := 500000000
      sensorTimeoutNs := 1000000000
      recoveryTimeoutNs := 10000000000
      recoverySpeedRampNs := 5000000000
      maxSpeedMps := 1.5
      maxSpeedMps_valid := speed_valid }
  bridge :=
    { maxLinearMps := 1.5
      maxAngularRadps := 1.5
      maxDecelMps2 := 1.0
      maxJerkMps3 := 2.0
      controlPeriodS := 0.05
      cmdFreshnessTimeoutNs := 250000000
      maxLinearMps_valid := speed_valid
      maxAngularRadps_valid := speed_valid
      maxDecelMps2_valid := decel_valid
      maxJerkMps3_valid := jerk_valid
      controlPeriodS_valid := period_valid }
  compatible := Qos.offersAll

/-- The values of the file for the sensor monitor are the defaults. -/
noncomputable def bringupMonitor : SensorMonitorNode ℝ where
  params := {}
  trackers := fun sensor =>
    { sensorName := sensor.name, expectedRateHz := sensor.expectedRate {} }
  startupTimeNs := 0

noncomputable def bringupEnvelopeParams : SafetyEnvelopeParams ℝ where
  safetyBufferM := 1.0
  corridorHalfWidthM := 0.4
  dynamicBufferEnabled := true

noncomputable def bringupEnvelope : SafetyEnvelopeNode ℝ := .membersOf bringupEnvelopeParams 0

theorem create_bringupMonitor :
    SensorMonitorNode.create ({} : SensorMonitorParams ℝ) 0 = .ok bringupMonitor :=
  SensorMonitorNode.create_eq_ok (by norm_num) (by norm_num) (by norm_num) (by norm_num) 0

theorem create_bringupEnvelope :
    SafetyEnvelopeNode.create bringupEnvelopeParams 0 = .ok bringupEnvelope := by
  refine SafetyEnvelopeNode.create_eq_ok_iff.2 ⟨?_, rfl⟩
  constructor <;>
    norm_num [bringupEnvelopeParams, SafetyEnvelopeNode.configOf, kMinControlPeriod,
      MotionEnvelopeConfig.finite, isFinite]
  -- the task limit is a machine integer
  all_goals decide

end Bringup

end SafetyStack

end SafetyCore
