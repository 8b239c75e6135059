import SafetyCore.Ros.SafetyStack.StopProfile

/-!
# Why the drive stops

Under a fresh command the bridge stops for a flag of the supervisor only, and the supervisor
raises its flags in a tick that leaves a latched fault. So without a fault the drive follows the
planner, also where the localization is lost, a sensor is degraded or an obstacle holds the robot.
-/

namespace SafetyCore

open Arithmetic Transition

namespace SafetyDriveBridgeNode

variable {α : Type*} [Zero α] [Neg α] [LT α] [DecidableLT α] [LE α] {n : SafetyDriveBridgeNode α}

/-- A fresh command is published, unless a flag is set. -/
theorem controlTick_of_fresh (p : Params α) {cmd : Twist α} {now : UInt64}
    (hcmd : n.latestNavCmd = some cmd)
    (hfresh : TimeUtils.isStale n.latestNavCmdTimeNs now p.cmdFreshnessTimeoutNs = false)
    (hfault : n.faultLatched = false) (hstop : n.safeStopActive = false) :
    n.controlTick p now = n.processAndPublishCommand p cmd := by
  unfold controlTick
  rw [if_neg (by simp [hfault]), if_neg (by simp [hstop]), hcmd]
  exact if_neg (by simp [hfresh])

end SafetyDriveBridgeNode

namespace SafetyStack

variable {α : Type} [Zero α] [Add α] [Sub α] [Mul α] [Div α] [Neg α] [OfScientific α]
  [NatCast α] [IntCast α] [LT α] [DecidableLT α] [LE α] [DecidableLE α] [FiniteTest α]
  [SquareRoot α] [Trigonometry α] [Casts α] {p : Params α} {monitor : SensorMonitorNode α}
  {envelope : SafetyEnvelopeNode α}

/-- The message at the place `k` of the log was published by a tick of the run `es` that left a
latched fault. -/
def FromFault (p : Params α) (monitor : SensorMonitorNode α) (envelope : SafetyEnvelopeNode α)
    (es : List (Event α)) (k : ℕ) : Prop :=
  ∃ pre now nowLocalization nowHealth order post,
    es = pre ++ .input .supervisor (.timerTick now nowLocalization nowHealth order) :: post ∧
      FaultLatched (stateAfter p monitor envelope (pre ++
        [.input .supervisor (.timerTick now nowLocalization nowHealth order)])) ∧
      (stateAfter p monitor envelope pre).log.length ≤ k ∧
      k < (stateAfter p monitor envelope pre).log.length + 3

/-- The state message that the bridge has read last, where it holds a fault. -/
theorem fromFault_of_faultLatched {es : List (Event α)}
    (h : ((stateAfter p monitor envelope es).nodes .bridge).faultLatched = true) :
    ∃ k m, (stateAfter p monitor envelope es).last (.bridge, .state) = some (k, m) ∧
      FromFault p monitor envelope es k := by
  rw [bridge_faultLatched] at h
  cases hlast : (stateAfter p monitor envelope es).last (.bridge, .state) with
  | none =>
      rw [hlast] at h
      cases h
  | some q =>
      obtain ⟨k, m⟩ := q
      rw [hlast] at h
      refine ⟨k, m, rfl, ?_⟩
      obtain ⟨hlog, htopic⟩ := coherent_stateAfter p monitor envelope es _ _ k m hlast
      cases m with
      | state msg =>
          obtain ⟨pre, ev, post, j, rfl, hpub, rfl⟩ :=
            Network.exists_published _ es hlog (Nat.zero_le k)
          obtain ⟨now, nowLocalization, nowHealth, order, rfl, hmsg⟩ :=
            exists_tick_of_state_mem (List.mem_of_getElem? hpub)
          refine ⟨pre, now, nowLocalization, nowHealth, order, post, rfl, ?_,
            Nat.le_add_right _ _, Nat.add_lt_add_left ?_ _⟩
          · rw [stateAfter_append]
            rw [hmsg] at h
            exact h
          · have hlt := (List.getElem?_eq_some_iff.1 hpub).1
            rw [published_tick] at hlt
            exact hlt
      | _ => cases htopic

/-- The stop that the bridge has read last, where it is active. -/
theorem fromFault_of_safeStopActive {es : List (Event α)}
    (h : ((stateAfter p monitor envelope es).nodes .bridge).safeStopActive = true) :
    ∃ k m, (stateAfter p monitor envelope es).last (.bridge, .safeStop) = some (k, m) ∧
      FromFault p monitor envelope es k := by
  obtain ⟨pre, now, nowLocalization, nowHealth, order, post, msg, rfl, hlast, -, -, hfault⟩ :=
    exists_tick_of_safeStop h
  refine ⟨_, _, hlast, pre, now, nowLocalization, nowHealth, order, post, rfl, ?_, by omega,
    by omega⟩
  rw [stateAfter_append]
  exact hfault

/-- In every run: where a control tick publishes anything else than its fresh command within the
limits, the state message or the stop that the bridge has read last was published by a tick of the
supervisor that left a latched fault. -/
theorem exists_fault_of_stop (p : Params α) (monitor : SensorMonitorNode α)
    (envelope : SafetyEnvelopeNode α) (es : List (Event α)) (cmd : Twist α) (now : UInt64) :
    let s := stateAfter p monitor envelope es
    let b : SafetyDriveBridgeNode α := s.nodes .bridge
    b.latestNavCmd = some cmd →
    TimeUtils.isStale b.latestNavCmdTimeNs now p.bridge.cmdFreshnessTimeoutNs = false →
    (b.controlTick p.bridge now).2 ≠ b.clampCommand p.bridge cmd b.recommendedSpeedLimitMps →
    ∃ k m, (s.last (.bridge, .state) = some (k, m) ∨ s.last (.bridge, .safeStop) = some (k, m)) ∧
      FromFault p monitor envelope es k := by
  intro s b hcmd hfresh hstop
  by_cases hfault : b.faultLatched = true
  · obtain ⟨k, m, hlast, hfrom⟩ := fromFault_of_faultLatched hfault
    exact ⟨k, m, .inl hlast, hfrom⟩
  · by_cases hactive : b.safeStopActive = true
    · obtain ⟨k, m, hlast, hfrom⟩ := fromFault_of_safeStopActive hactive
      exact ⟨k, m, .inr hlast, hfrom⟩
    · refine absurd ?_ hstop
      rw [SafetyDriveBridgeNode.controlTick_of_fresh p.bridge hcmd hfresh
        (Bool.eq_false_iff.2 hfault) (Bool.eq_false_iff.2 hactive)]
      rfl

/-- A clock that runs backwards latches a fault, and the bridge reads the state of that tick. -/
theorem exists_fault_of_stop_regression :
    let es : List (Event ℝ) :=
      [.input .supervisor (.timerTick 2 2 2 []), .input .supervisor (.timerTick 1 1 1 []),
        .deliver .bridge 4 (0, 0), .input .bridge (.cmdVelNav ⟨1.0, 0⟩ 5)]
    let s := stateAfter bringup bringupMonitor bringupEnvelope es
    ∃ k m, (s.last (.bridge, .state) = some (k, m) ∨ s.last (.bridge, .safeStop) = some (k, m)) ∧
      FromFault bringup bringupMonitor bringupEnvelope es k := by
  refine exists_fault_of_stop bringup bringupMonitor bringupEnvelope _ ⟨1.0, 0⟩ 5 rfl rfl ?_
  intro heq
  have hlinear : (0 : ℝ) = stdClamp 1.0 (-stdMin (stdMin 1.5 1e9) 1e9)
      (stdMin (stdMin 1.5 1e9) 1e9) := congrArg Twist.linearX heq
  norm_num [stdMin, stdClamp] at hlinear

end SafetyStack

end SafetyCore
