import SafetyCore.Ros.SafetyStack.DegradedSpeed

/-!
# After a stop was cleared

A tick in the safe stop sets the limit that the controller aims at to zero, and nothing that comes
with the clearing of the fault raises it again: only a sensor that degrades or recovers does. Until
then the drive stands still under a fresh command, although no fault is latched and the mode may be
`Moving`.
-/

namespace SafetyCore

open Arithmetic Transition

namespace SpeedLimitController

variable {α : Type*} [Zero α] {c : SpeedLimitController α}

/-- No ramp is under way, and the limit aimed at is zero. -/
structure HoldsZero (c : SpeedLimitController α) : Prop where
  noRamp : c.rampStartNs = none
  target : c.targetLimitMps = 0

variable [Add α] [Sub α] [Mul α] [Div α] [OfScientific α] [NatCast α]

theorem holdsZero_update_true (c : SpeedLimitController α) (nowNs : UInt64) :
    (c.update nowNs true).HoldsZero ∧ (c.update nowNs true).currentLimitMps = 0 :=
  ⟨⟨rfl, rfl⟩, rfl⟩

/-- Updates keep the zero, in the safe stop and outside of it. -/
theorem HoldsZero.update (h : c.HoldsZero) (nowNs : UInt64) (safeStopActive : Bool) :
    (c.update nowNs safeStopActive).HoldsZero ∧
      (c.update nowNs safeStopActive).currentLimitMps = 0 := by
  cases safeStopActive with
  | true => exact c.holdsZero_update_true nowNs
  | false =>
      unfold SpeedLimitController.update
      rw [if_neg Bool.false_ne_true, h.noRamp]
      exact ⟨⟨rfl, h.target⟩, h.target⟩

end SpeedLimitController

namespace SafetySupervisorNode

variable {α : Type*} [Zero α] [Add α] [Sub α] [Mul α] [Div α] [OfScientific α] [NatCast α]
  [LE α] {p : Params α} {n : SafetySupervisorNode α}

/-- A tick that begins with a latched fault updates the controller in the safe stop. -/
theorem timerTick_speedCtrl_of_latched (hsettled : n.machine.Settled)
    (hlatched : n.machine.latchedFault = true) (now nowLocalization nowHealth : UInt64)
    (order : List String) :
    (n.timerTick p now nowLocalization nowHealth order).1.speedCtrl =
      n.speedCtrl.update now true := by
  let m := n.checked p now nowLocalization nowHealth order
  have hm : m.machine.mode = .safeStop := by
    have hloc := checkLocalizationStaleness_settled p nowLocalization hsettled
    have hhealth := checkSensorHealth_settled p nowHealth hloc
    refine (checkSensorRecoveryTimeouts_settled p now order hhealth).1 ?_
    refine (keepsStop_checkSensorRecoveryTimeouts p _ now order).latched ?_
    refine (keepsStop_checkSensorHealth p _ nowHealth).latched ?_
    exact (keepsStop_checkLocalizationStaleness p n nowLocalization).latched hlatched
  change m.speedCtrl.update now (decide (m.machine.mode = .safeStop)) = _
  rw [hm]
  congr 1
  simp [m, checked]

/-- The callback is a health message of a single sensor that degrades or recovers with it. -/
def MovesLimit (n : SafetySupervisorNode α) (e : Event) : Prop :=
  ∃ sensorName status now nowRecovered,
    e = .sensorHealth sensorName status now nowRecovered ∧ sensorName ≠ "all" ∧
      (n.recoveryMgr.processHealthMsg sensorName status now).2 ≠ .kNone

/-- The controller holds its zero through every other callback. -/
theorem holdsZero_next {e : Event} (he : ¬ MovesLimit n e) (h : n.speedCtrl.HoldsZero) :
    ((component p).next n e).speedCtrl.HoldsZero := by
  cases e with
  | envelope zone =>
      obtain ⟨_, _, heq⟩ := onEnvelope_frame p n zone
      change (n.onEnvelope p zone).speedCtrl.HoldsZero
      rwa [heq]
  | odom sec nanosec => exact h
  | sensorHealth sensorName status now nowRecovered =>
      change (n.onSensorHealth sensorName status now nowRecovered).speedCtrl.HoldsZero
      unfold onSensorHealth
      by_cases hall : sensorName = "all"
      · rwa [if_pos hall]
      · have hnone : (n.recoveryMgr.processHealthMsg sensorName status now).2 = .kNone :=
          by_contra fun hne => he ⟨_, _, _, _, rfl, hall, hne⟩
        rw [if_neg hall]
        dsimp only
        rwa [hnone]
  | clearFault =>
      obtain ⟨_, heq⟩ := n.onClearFault_frame
      change n.onClearFault.1.speedCtrl.HoldsZero
      rwa [heq]
  | timerTick now nowLocalization nowHealth order =>
      obtain ⟨stop, heq⟩ := timerTick_speedCtrl p n now nowLocalization nowHealth order
      change (n.timerTick p now nowLocalization nowHealth order).1.speedCtrl.HoldsZero
      rw [heq]
      exact (h.update now stop).1

end SafetySupervisorNode

namespace SafetyStack

variable {K : Type} [Field K] [LinearOrder K] [SquareRoot K] [Trigonometry K] [Casts K]

/-- The supervisor reads no health message in the step with which a sensor degrades or
recovers. -/
def KeepsLimit (p : Params K) (s : State K) (ev : Event K) : Prop :=
  ∀ e, (network p).reads s ev = some ⟨.supervisor, e⟩ →
    ¬ SafetySupervisorNode.MovesLimit (s.nodes .supervisor) e

def HoldsZero (s : State K) : Prop := (s.nodes .supervisor).speedCtrl.HoldsZero

variable {p : Params K} {s : State K} {ev : Event K}

theorem holdsZero_step (hev : KeepsLimit p s ev) (h : HoldsZero s) :
    HoldsZero ((network p).step s ev) := by
  rcases (network p).nodes_step_cases s ev .supervisor with hkeep | ⟨e, hr, hnext⟩
  · rw [HoldsZero, hkeep]
    exact h
  · rw [HoldsZero, hnext]
    exact SafetySupervisorNode.holdsZero_next (hev e hr) h

/-- What is published on the topic meanwhile. -/
theorem limit_of_holdsZero (h : HoldsZero s) :
    ∀ m ∈ (network p).published s ev, (network p).topic m = .recoverySpeedLimit →
      m = .recoverySpeedLimit 0 := by
  intro m hm htopic
  obtain ⟨now, nowLocalization, nowHealth, order, -, rfl⟩ := exists_tick_of_limit_mem hm htopic
  obtain ⟨stop, heq⟩ := SafetySupervisorNode.timerTick_speedCtrl p.supervisor
    (s.nodes .supervisor) now nowLocalization nowHealth order
  rw [heq, (h.update now stop).2]

/-- Every recovery speed limit published since a tick that begins with a latched fault is zero. -/
theorem recoveryLimit_of_stop {monitor : SensorMonitorNode K} {envelope : SafetyEnvelopeNode K}
    {es fs : List (Event K)} {now nowLocalization nowHealth : UInt64} {order : List String}
    {k : ℕ} {m : Message K} :
    let s := stateAfter p monitor envelope es
    let tick : Event K := .input .supervisor (.timerTick now nowLocalization nowHealth order)
    FaultLatched s →
    (network p).component.Along (KeepsLimit p) ((network p).step s tick) fs →
    (stateAfter p monitor envelope (es ++ tick :: fs)).last (.bridge, .recoverySpeedLimit) =
      some (k, m) →
    s.log.length ≤ k → m = .recoverySpeedLimit 0 := by
  intro s tick hfault hfs hread hk
  have htick : ((network p).step s tick).nodes .supervisor = _ :=
    Network.nodes_step_self (Network.reads_input rfl)
  have hspeed := SafetySupervisorNode.timerTick_speedCtrl_of_latched (p := p.supervisor)
    (settled_stateAfter p monitor envelope es) hfault now nowLocalization nowHealth order
  obtain ⟨hzero, hcurrent⟩ := SpeedLimitController.holdsZero_update_true
    (s.nodes .supervisor).speedCtrl now
  rw [← hspeed] at hzero hcurrent
  rw [stateAfter_append] at hread
  refine Network.Along.last_cons (fun _ _ hev h => holdsZero_step hev h)
    (fun _ _ _ h => limit_of_holdsZero h) (coherent_stateAfter p monitor envelope es)
    ?_ ?_ hfs hread hk
  · rw [HoldsZero, htick]
    exact hzero
  · intro m hm htopic
    obtain ⟨_, _, _, _, hev, rfl⟩ := exists_tick_of_limit_mem hm htopic
    dsimp only [tick] at hev
    cases hev
    rw [hcurrent]

/-- From a tick of the supervisor on that begins with a latched fault, the drive is commanded no
speed outside of a stop profile, as soon as the bridge has read a recovery speed limit published
since, until the supervisor reads that a sensor degrades or recovers: whether the fault is cleared
or not, and whatever else is read and done. -/
theorem cleared_stop_holds_drive [IsStrictOrderedRing K] (p : Params K)
    (monitor : SensorMonitorNode K) (envelope : SafetyEnvelopeNode K) (es fs : List (Event K))
    (now nowLocalization nowHealth : UInt64) (order : List String) {k : ℕ} {m : Message K} :
    let s := stateAfter p monitor envelope es
    let tick : Event K := .input .supervisor (.timerTick now nowLocalization nowHealth order)
    let s' := stateAfter p monitor envelope (es ++ tick :: fs)
    let b : SafetyDriveBridgeNode K := s'.nodes .bridge
    FaultLatched s →
    (network p).component.Along (KeepsLimit p) ((network p).step s tick) fs →
    s'.last (.bridge, .recoverySpeedLimit) = some (k, m) → s.log.length ≤ k →
    ¬ FollowsProfile b →
    ∀ nowTick, (b.controlTick p.bridge nowTick).2.linearX = 0 := by
  intro s tick s' b hfault hfs hread hk hprofile nowTick
  obtain rfl := recoveryLimit_of_stop hfault hfs hread hk
  have hle := controlTick_of_recoveryLimit hread hprofile nowTick
  rw [max_self] at hle
  exact abs_nonpos_iff.1 hle

/-- A sensor degrades or recovers by a message only. -/
theorem keepsLimit_of_ne (hev : ∀ k c, ev ≠ .deliver .supervisor k c) : KeepsLimit p s ev := by
  rintro e hreads ⟨sensorName, status, now, nowRecovered, rfl, -, -⟩
  rcases Network.reads_eq_some_iff.1 hreads with ⟨-, hext⟩ | ⟨k, c, -, hdeliver, -⟩
  · cases hext
  · exact hev k c hdeliver

/-- A clock runs backwards, the fault is cleared, and the bridge reads the limit and the state of
the next tick. -/
theorem cleared_stop_holds_drive_regression :
    let es : List (Event ℝ) :=
      [.input .supervisor (.timerTick 2 2 2 []), .input .supervisor (.timerTick 1 1 1 [])]
    let fs : List (Event ℝ) :=
      [.input .supervisor .clearFault, .input .supervisor (.timerTick 3 3 3 []),
        .deliver .bridge 9 (0, 0), .deliver .bridge 10 (0, 0),
        .input .bridge (.cmdVelNav ⟨1.0, 0⟩ 5)]
    let b : SafetyDriveBridgeNode ℝ := (stateAfter bringup bringupMonitor bringupEnvelope
      (es ++ .input .supervisor (.timerTick 1 1 1 []) :: fs)).nodes .bridge
    b.faultLatched = false ∧ (b.controlTick bringup.bridge 5).2.linearX = 0 := by
  intro es fs b
  have hfault : b.faultLatched = false := by
    rw [bridge_faultLatched]
    rfl
  have hprofile : ¬ FollowsProfile b := by
    rintro ⟨-, hstop⟩
    rw [bridge_safeStopActive] at hstop
    cases hstop
  have hlatched : FaultLatched (stateAfter bringup bringupMonitor bringupEnvelope es) := rfl
  have hread : (stateAfter bringup bringupMonitor bringupEnvelope
      (es ++ .input .supervisor (.timerTick 1 1 1 []) :: fs)).last
        (.bridge, .recoverySpeedLimit) = some (9, _) := rfl
  refine ⟨hfault, cleared_stop_holds_drive bringup bringupMonitor bringupEnvelope es fs 1 1 1 []
    hlatched ?_ hread (by decide : 6 ≤ 9) hprofile 5⟩
  exact ⟨keepsLimit_of_ne (by simp), keepsLimit_of_ne (by simp), keepsLimit_of_ne (by simp),
    keepsLimit_of_ne (by simp), keepsLimit_of_ne (by simp), trivial⟩

end SafetyStack

end SafetyCore
