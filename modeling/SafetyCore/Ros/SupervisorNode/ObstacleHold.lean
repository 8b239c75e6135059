import SafetyCore.Ros.SupervisorNode.Tick

/-!
# The obstacle hold of a protective zone

A protective envelope asks for the obstacle hold in the mode `Moving` only.
Otherwise the mode stays as it is, which is right unless it is `Degraded`: then
the robot goes on at reduced speed inside the protective zone, and the next
sensor recovery takes it to `Moving`. `obstacleHold_iff` says that nothing else
goes wrong: no other callback leads to `Moving` or `Degraded` before the next
envelope message.
-/

namespace SafetyCore

open Transition

namespace SafetySupervisorNode

section Hold

variable {α : Type*}

/-- In a protective zone the robot does not drive. -/
def HoldsObstacle (n : SafetySupervisorNode α) : Prop :=
  n.latestZone = .protective → n.machine.mode ≠ .moving ∧ n.machine.mode ≠ .degraded

/-- The step is a protective envelope message that finds the mode `Degraded`. -/
def ProtectiveWhileDegraded (n : SafetySupervisorNode α) (e : Event) : Prop :=
  (∃ zone, e = .envelope zone ∧ SafetyZone.ofRaw zone = .protective) ∧
    n.machine.mode = .degraded

variable {n : SafetySupervisorNode α}

section Sensors

variable [Mul α] [OfScientific α]

/-- Sensor messages change the mode from `Moving` and from `Degraded` only. -/
theorem onSensorHealth_machine (sensorName : String) (status : UInt8)
    (now nowRecovered : UInt64) (hmoving : n.machine.mode ≠ .moving)
    (hdegraded : n.machine.mode ≠ .degraded) :
    (n.onSensorHealth sensorName status now nowRecovered).machine = n.machine := by
  obtain ⟨_, _, _, hmachine, heq⟩ := n.onSensorHealth_frame sensorName status now nowRecovered
  rw [heq]
  rcases hmachine with rfl | ⟨hmode, -⟩ | ⟨hmode, -⟩
  · rfl
  · exact absurd hmode hmoving
  · exact absurd hmode hdegraded

@[simp] theorem onSensorHealth_latestZone (sensorName : String) (status : UInt8)
    (now nowRecovered : UInt64) :
    (n.onSensorHealth sensorName status now nowRecovered).latestZone =
      n.latestZone := by
  obtain ⟨_, _, _, -, heq⟩ := n.onSensorHealth_frame sensorName status now nowRecovered
  rw [heq]

end Sensors

section Zones

variable [Zero α] [LE α] (p : Params α)

@[simp] theorem onEnvelope_latestZone (zone : UInt8) :
    (n.onEnvelope p zone).latestZone = SafetyZone.ofRaw zone := by
  obtain ⟨_, _, heq⟩ := onEnvelope_frame p n zone
  rw [heq]

/-- A protective envelope turns `Moving` into the obstacle hold and leaves every
other mode as it is. -/
theorem onEnvelope_mode_of_protective {zone : UInt8} (h : n.machine.Settled)
    (hzone : SafetyZone.ofRaw zone = .protective) :
    (n.onEnvelope p zone).machine.mode =
      if n.machine.mode = .moving then .avoidingObstacle else n.machine.mode := by
  simp only [onEnvelope, handleZoneTransition, hzone]
  by_cases hm : n.machine.mode = .moving
  · simp [hm, ModeStateMachine.requestObstacleHold, h.transitionTo_mode, Mode.allowed]
  · simp [hm]

end Zones

section Runs

variable [Zero α] [Add α] [Sub α] [Mul α] [Div α] [OfScientific α] [NatCast α] [LE α]
  (p : Params α)

/-- What one callback does to the hold. -/
theorem holdsObstacle_next_iff (e : Event) (h : n.machine.Settled)
    (hold : HoldsObstacle n) :
    HoldsObstacle ((component p).next n e) ↔ ¬ ProtectiveWhileDegraded n e := by
  cases e with
  | envelope zone =>
      change HoldsObstacle (n.onEnvelope p zone) ↔ _
      by_cases hzone : SafetyZone.ofRaw zone = .protective
      · simp only [HoldsObstacle, onEnvelope_latestZone, hzone, ProtectiveWhileDegraded,
          onEnvelope_mode_of_protective p h hzone]
        cases n.machine.mode <;> simp [hzone]
      · simp [HoldsObstacle, hzone, ProtectiveWhileDegraded]
  | odom sec nanosec => exact iff_of_true hold (by simp [ProtectiveWhileDegraded])
  | sensorHealth sensorName status now nowRecovered =>
      refine iff_of_true ?_ (by simp [ProtectiveWhileDegraded])
      intro hzone
      change (n.onSensorHealth sensorName status now nowRecovered).latestZone = _ at hzone
      rw [onSensorHealth_latestZone] at hzone
      obtain ⟨hmoving, hdegraded⟩ := hold hzone
      change (n.onSensorHealth sensorName status now nowRecovered).machine.mode ≠ _ ∧
        (n.onSensorHealth sensorName status now nowRecovered).machine.mode ≠ _
      rw [onSensorHealth_machine sensorName status now nowRecovered hmoving hdegraded]
      exact ⟨hmoving, hdegraded⟩
  | clearFault =>
      refine iff_of_true ?_ (by simp [ProtectiveWhileDegraded])
      obtain ⟨_, heq⟩ := n.onClearFault_frame
      change HoldsObstacle n.onClearFault.1
      rw [heq]
      intro hzone
      obtain ⟨hmoving, hdegraded⟩ := hold hzone
      dsimp only
      rw [ModeStateMachine.clearFault_mode]
      split
      · exact ⟨by decide, by decide⟩
      · exact ⟨hmoving, hdegraded⟩
  | timerTick now nowLocalization nowHealth order =>
      refine iff_of_true ?_ (by simp [ProtectiveWhileDegraded])
      intro hzone
      change (n.timerTick p now nowLocalization nowHealth order).1.latestZone = _ at hzone
      rw [timerTick_latestZone] at hzone
      obtain ⟨hmoving, hdegraded⟩ := hold hzone
      exact timerTick_held p now nowLocalization nowHealth order h hmoving hdegraded

/-- In every run, the hold is in force in every state reached in a protective
zone exactly when no protective envelope finds the mode `Degraded`. -/
theorem obstacleHold_iff (es : List Event) :
    (component p).Along (fun n e => HoldsObstacle ((component p).next n e))
        (initial p) es ↔
      (component p).Along (fun n e => ¬ ProtectiveWhileDegraded n e)
        (initial p) es := by
  refine Component.along_congr
    (I := fun n : SafetySupervisorNode α => n.machine.Settled ∧ HoldsObstacle n)
    (fun n e h => holdsObstacle_next_iff p e h.1 h.2)
    (fun n e h hold => ⟨settled_preserved p n e h.1, hold⟩)
    ⟨settled_initial p, ?_⟩ es
  intro hzone
  cases hzone

end Runs

end Hold

/-- A sensor degrades while the robot moves, the zone becomes protective, and
the sensor recovers: the robot moves on in the protective zone. -/
theorem obstacleHold_not_always :
    ¬ ∀ (p : Params ℚ) (es : List Event),
      (component p).Along (fun n e => HoldsObstacle ((component p).next n e))
        (initial p) es := by
  intro h
  have hrun := h Params.default
    [.envelope 0, .sensorHealth "lidar" SensorHealth.degraded 1 1, .envelope 2,
      .sensorHealth "lidar" SensorHealth.healthy 2 2]
  have hmoving := (hrun.2.2.2.1 (by decide +kernel)).1
  exact absurd hmoving (by decide +kernel)

end SafetySupervisorNode

end SafetyCore
