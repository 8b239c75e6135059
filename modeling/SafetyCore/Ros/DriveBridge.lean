import Mathlib.Tactic.NormNum
import SafetyCore.Motion.StopProfile
import SafetyCore.Ros.TimeUtils
import SafetyCore.Transition.Component

/-!
# The drive bridge node

`SafetyDriveBridgeNode` sits between the planner and the drive: `control_tick`
publishes one `Twist` per control period, which is zero under a latched fault, a
sample of a stop profile under a safe stop, and otherwise the last command within
its limits. `component` is the node as a component whose events are its
callbacks; the clock reading that a callback takes is part of its event.

The parameters carry the checks of the constructor, in the form in which the
constructor makes them. `cmd_freshness_s` is kept in nanoseconds only. Of a
`Twist`, the bridge reads and writes `linear.x` and `angular.z`.
-/

namespace SafetyCore

open Arithmetic Transition

structure Twist (α : Type*) where
  linearX : α
  angularZ : α
  deriving DecidableEq, Repr

/-- The fields of the message that the bridge reads. -/
structure EnvelopeStatus (α : Type*) where
  zone : UInt8
  recommendedSpeedLimitMps : α
  deriving DecidableEq, Repr

structure SafetyDriveBridgeNode (α : Type*) where
  safeStopActive : Bool
  faultLatched : Bool
  recommendedSpeedLimitMps : α
  recoverySpeedLimitMps : α
  measuredForwardSpeedMps : α
  latestNavCmd : Option (Twist α)
  latestNavCmdTimeNs : UInt64
  stopProfileActive : Bool
  stopProfileIndex : ℕ
  /-- The `stop_profile_count_` points of the buffer that were written. -/
  stopProfile : List (TrajectoryPoint α)
  lastPublishedLinear : α
  deriving DecidableEq, Repr

namespace SafetyDriveBridgeNode

structure Params (α : Type*) [Zero α] [LE α] where
  maxLinearMps : α
  maxAngularRadps : α
  maxDecelMps2 : α
  maxJerkMps3 : α
  controlPeriodS : α
  cmdFreshnessTimeoutNs : UInt64
  maxLinearMps_valid : ¬ maxLinearMps ≤ 0
  maxAngularRadps_valid : ¬ maxAngularRadps ≤ 0
  maxDecelMps2_valid : ¬ maxDecelMps2 ≤ 0
  maxJerkMps3_valid : ¬ maxJerkMps3 ≤ 0
  controlPeriodS_valid : ¬ controlPeriodS ≤ 0

/-- The defaults of the constructor pass its checks. -/
def Params.default : Params ℚ where
  maxLinearMps := 1.5
  maxAngularRadps := 1.5
  maxDecelMps2 := 1.0
  maxJerkMps3 := 2.0
  controlPeriodS := 0.05
  cmdFreshnessTimeoutNs := 250000000
  maxLinearMps_valid := by norm_num
  maxAngularRadps_valid := by norm_num
  maxDecelMps2_valid := by norm_num
  maxJerkMps3_valid := by norm_num
  controlPeriodS_valid := by norm_num

/-- The callbacks of the node with their messages and clock readings. -/
inductive Event (α : Type*)
  | cmdVelNav (msg : Twist α) (now : UInt64)
  | envelope (msg : EnvelopeStatus α)
  | safeStop (data : Bool)
  | state (faultLatched : Bool)
  | odom (linearX : α)
  | recoverySpeedLimit (data : α)
  | controlTick (now : UInt64)
  deriving DecidableEq, Repr

def kStopProfileCapacity : ℕ := 256

section Callbacks

variable {α : Type*} [Zero α] [Add α] [Mul α] [Div α] [Neg α] [OfScientific α]
  [LT α] [DecidableLT α] [LE α] [DecidableLE α] [FiniteTest α]

/-- The node as constructed; the two limits are unrestricted by default. -/
def initial : SafetyDriveBridgeNode α where
  safeStopActive := false
  faultLatched := false
  recommendedSpeedLimitMps := 1e9
  recoverySpeedLimitMps := 1e9
  measuredForwardSpeedMps := 0
  latestNavCmd := none
  latestNavCmdTimeNs := 0
  stopProfileActive := false
  stopProfileIndex := 0
  stopProfile := []
  lastPublishedLinear := 0

variable (p : Params α) (n : SafetyDriveBridgeNode α)

def onCmdVelNav (msg : Twist α) (now : UInt64) : SafetyDriveBridgeNode α :=
  { n with latestNavCmd := some msg, latestNavCmdTimeNs := now }

def onEnvelope (msg : EnvelopeStatus α) : SafetyDriveBridgeNode α :=
  if msg.zone = 0 then
    { n with recommendedSpeedLimitMps := p.maxLinearMps }
  else
    { n with recommendedSpeedLimitMps := stdMax 0 msg.recommendedSpeedLimitMps }

def startJerkLimitedStop : SafetyDriveBridgeNode α :=
  let speed := stdMax 0 n.measuredForwardSpeedMps
  let profile := Motion.generateJerkLimitedStopProfile speed p.maxDecelMps2
    p.maxJerkMps3 p.controlPeriodS kStopProfileCapacity
  { n with
    stopProfile := profile.points
    stopProfileIndex := 0
    stopProfileActive := profile.ok && profile.points.length > 0 }

def onSafeStop (data : Bool) : SafetyDriveBridgeNode α :=
  let prev := n.safeStopActive
  let n := { n with safeStopActive := data }
  let n := if data && !prev then n.startJerkLimitedStop p else n
  if !data then { n with stopProfileActive := false } else n

def onState (faultLatched : Bool) : SafetyDriveBridgeNode α :=
  { n with faultLatched := faultLatched }

def onOdom (linearX : α) : SafetyDriveBridgeNode α :=
  { n with measuredForwardSpeedMps := linearX }

def onRecoverySpeedLimit (data : α) : SafetyDriveBridgeNode α :=
  { n with recoverySpeedLimitMps := stdMax 0 data }

def publishZeroTwist : SafetyDriveBridgeNode α × Twist α :=
  ({ n with lastPublishedLinear := 0 }, ⟨0, 0⟩)

def clampCommand (cmd : Twist α) (speedLimit : α) : Twist α :=
  let recoveryLimit := n.recoverySpeedLimitMps
  let vLimit := stdMin (stdMin p.maxLinearMps speedLimit) recoveryLimit
  { linearX := stdClamp cmd.linearX (-vLimit) vLimit
    angularZ := stdClamp cmd.angularZ (-p.maxAngularRadps) p.maxAngularRadps }

/-- The next sample of the stop profile; `none` when the source returns
`false`. -/
def executeStopProfile : Option (SafetyDriveBridgeNode α × Twist α) :=
  if n.stopProfileActive then
    n.stopProfile[n.stopProfileIndex]?.map fun sample =>
      ({ n with
          lastPublishedLinear := sample.speedMps
          stopProfileIndex := n.stopProfileIndex + 1 },
        ⟨sample.speedMps, 0⟩)
  else
    none

def processAndPublishCommand (latestNavCmd : Twist α) :
    SafetyDriveBridgeNode α × Twist α :=
  let speedLimit := n.recommendedSpeedLimitMps
  let cmd := n.clampCommand p latestNavCmd speedLimit
  ({ n with lastPublishedLinear := cmd.linearX }, cmd)

def controlTick (now : UInt64) : SafetyDriveBridgeNode α × Twist α :=
  if n.faultLatched then
    n.publishZeroTwist
  else if n.safeStopActive then
    n.executeStopProfile.getD n.publishZeroTwist
  else
    match n.latestNavCmd with
    | none => n.publishZeroTwist
    | some cmd =>
        if TimeUtils.isStale n.latestNavCmdTimeNs now p.cmdFreshnessTimeoutNs then
          n.publishZeroTwist
        else
          n.processAndPublishCommand p cmd

/-- The node driven by its callbacks. Only `control_tick` publishes. -/
def component : Component (SafetyDriveBridgeNode α) (Event α) (Option (Twist α)) where
  next n
    | .cmdVelNav msg now => n.onCmdVelNav msg now
    | .envelope msg => n.onEnvelope p msg
    | .safeStop data => n.onSafeStop p data
    | .state faultLatched => n.onState faultLatched
    | .odom linearX => n.onOdom linearX
    | .recoverySpeedLimit data => n.onRecoverySpeedLimit data
    | .controlTick now => (n.controlTick p now).1
  output n
    | .controlTick now => some (n.controlTick p now).2
    | _ => none

end Callbacks

section Tick

variable {α : Type*} [Zero α] {n : SafetyDriveBridgeNode α}

/-- A sample is published if the profile is active and has one left; the place in the
profile moves on. -/
theorem executeStopProfile_eq_some_iff {r : SafetyDriveBridgeNode α × Twist α} :
    n.executeStopProfile = some r ↔
      n.stopProfileActive = true ∧ ∃ sample, n.stopProfile[n.stopProfileIndex]? = some sample ∧
        ({ n with
            lastPublishedLinear := sample.speedMps
            stopProfileIndex := n.stopProfileIndex + 1 },
          ⟨sample.speedMps, 0⟩) = r := by
  unfold executeStopProfile
  split
  next hactive => simp only [Option.map_eq_some_iff, hactive, true_and]
  next hinactive =>
    refine ⟨nofun, fun h => ?_⟩
    exact absurd h.1 hinactive

/-- A tick publishes zero, the next sample of the stop profile or the last command. -/
theorem controlTick_branches [Neg α] [LT α] [DecidableLT α] [LE α] (p : Params α)
    (n : SafetyDriveBridgeNode α) (now : UInt64) :
    n.controlTick p now = n.publishZeroTwist ∨
      n.faultLatched = false ∧
        (n.safeStopActive = true ∧ n.executeStopProfile = some (n.controlTick p now) ∨
          n.safeStopActive = false ∧ ∃ cmd, n.latestNavCmd = some cmd ∧
            TimeUtils.isStale n.latestNavCmdTimeNs now p.cmdFreshnessTimeoutNs = false ∧
            n.controlTick p now = n.processAndPublishCommand p cmd) := by
  unfold controlTick
  split
  next => exact .inl rfl
  next hfault =>
    split
    next hstop =>
      cases hr : n.executeStopProfile with
      | none => exact .inl rfl
      | some r => exact .inr ⟨Bool.eq_false_iff.2 hfault, .inl ⟨hstop, rfl⟩⟩
    next hstop =>
      split
      next => exact .inl rfl
      next cmd hcmd =>
        split
        next => exact .inl rfl
        next hfresh =>
          exact .inr ⟨Bool.eq_false_iff.2 hfault,
            .inr ⟨Bool.eq_false_iff.2 hstop, cmd, hcmd, Bool.eq_false_iff.2 hfresh, rfl⟩⟩

end Tick

end SafetyDriveBridgeNode

end SafetyCore
