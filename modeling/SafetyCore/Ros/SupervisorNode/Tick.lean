import SafetyCore.Ros.SupervisorNode.Checks

/-!
# One tick of the supervisor node, and all its runs

The four checks of `timer_tick` are put together: under which conditions on the
state before the tick it latches a fault, and when it leaves the machine in
`Moving`. Every callback keeps the machine settled, so that the results hold in
every run.
-/

namespace SafetyCore

open Transition

namespace SafetySupervisorNode

section Reads

variable {α : Type*} [Zero α] [LE α] (p : Params α) {n m : SafetySupervisorNode α}

/-- The predicates of the later checks read the manager only, which the earlier
checks leave alone as far as it matters. -/
theorem sensorFault_congr (h : n.recoveryMgr = m.recoveryMgr) (now : UInt64) :
    SensorFault p n now ↔ SensorFault p m now := by
  rw [SensorFault, SensorFault, SummaryFresh, SummaryFresh, h]

theorem recoveryTimeout_congr
    (h : n.recoveryMgr.sensorStates = m.recoveryMgr.sensorStates) (now : UInt64)
    (order : List String) :
    RecoveryTimeout p n now order ↔ RecoveryTimeout p m now order := by
  have hexpired : n.recoveryMgr.expired now p.recoveryTimeoutNs =
      m.recoveryMgr.expired now p.recoveryTimeoutNs := by
    funext name
    rw [SensorRecoveryManager.expired, SensorRecoveryManager.expired,
      SensorRecoveryManager.find, SensorRecoveryManager.find, h]
  rw [RecoveryTimeout, RecoveryTimeout, hexpired]

end Reads

section Checked

variable {α : Type*} [Zero α] [LE α] (p : Params α) (n : SafetySupervisorNode α)
  (now nowLocalization nowHealth : UInt64) (order : List String)

/-- The node after the checks that can move the machine before the clock is
sampled. -/
def checked : SafetySupervisorNode α :=
  ((n.checkLocalizationStaleness p nowLocalization).checkSensorHealth p
    nowHealth).checkSensorRecoveryTimeouts p now order

/-- The checks leave the records of the sensors to the scan for expired ones. -/
theorem checked_sensorStates :
    ∃ r : SensorRecoveryManager, r.sensorStates = n.recoveryMgr.sensorStates ∧
      ((n.checked p now nowLocalization nowHealth order).recoveryMgr.sensorStates =
          r.sensorStates ∨
        (n.checked p now nowLocalization nowHealth order).recoveryMgr.sensorStates =
          (r.checkTimeouts now p.recoveryTimeoutNs order).1.sensorStates) := by
  let m := (n.checkLocalizationStaleness p nowLocalization).checkSensorHealth p nowHealth
  obtain ⟨_, _, _, h, hstates⟩ := checkSensorRecoveryTimeouts_frame p m now order
  have hm : m.recoveryMgr.sensorStates = n.recoveryMgr.sensorStates := by
    simp [m]
  refine ⟨m.recoveryMgr, hm, ?_⟩
  rw [checked, h]
  exact hstates

end Checked

section Tick

variable {α : Type*} [Zero α] [Add α] [Sub α] [Mul α] [Div α] [OfScientific α]
  [NatCast α] [LE α] (p : Params α) (n : SafetySupervisorNode α)
  (now nowLocalization nowHealth : UInt64) (order : List String)

theorem timerTick_eq :
    (n.timerTick p now nowLocalization nowHealth order).1 =
      ((n.checked p now nowLocalization nowHealth order).updateSpeedLimit
        now).observeClockSample now := rfl

/-- The last clock sample is still the one of the tick before. -/
theorem clockRegression_checked :
    ClockRegression ((n.checked p now nowLocalization nowHealth
      order).updateSpeedLimit now) now ↔ ClockRegression n now := by
  simp [ClockRegression, checked, updateSpeedLimit]

@[simp] theorem timerTick_latestZone :
    (n.timerTick p now nowLocalization nowHealth order).1.latestZone = n.latestZone := by
  simp [timerTick_eq, checked, observeClockSample, updateSpeedLimit]

/-- A tick updates the controller after its checks, which leave it alone. -/
theorem timerTick_speedCtrl (now nowLocalization nowHealth : UInt64)
    (order : List String) :
    ∃ safeStop, (n.timerTick p now nowLocalization nowHealth order).1.speedCtrl =
      n.speedCtrl.update now safeStop := by
  let m := n.checked p now nowLocalization nowHealth order
  refine ⟨m.machine.mode = .safeStop, ?_⟩
  change m.speedCtrl.update now _ = _
  congr 1
  simp [m, checked]

/-- Every tick latches a fault exactly when one of its checks has a reason to. -/
def LatchesInTick : Prop :=
  LocalizationCritical p n nowLocalization ∨ SensorFault p n nowHealth ∨
    RecoveryTimeout p n now order ∨ ClockRegression n now

variable {n}

theorem timerTick_settled (h : n.machine.Settled) :
    (n.timerTick p now nowLocalization nowHealth order).1.machine.Settled :=
  observeClockSample_settled now <|
    checkSensorRecoveryTimeouts_settled p now order <|
      checkSensorHealth_settled p nowHealth <|
        checkLocalizationStaleness_settled p nowLocalization h

theorem timerTick_latchedFault (h : n.machine.Settled) :
    (n.timerTick p now nowLocalization nowHealth order).1.machine.latchedFault = true ↔
      n.machine.latchedFault = true ∨
        LatchesInTick p n now nowLocalization nowHealth order := by
  have hloc := checkLocalizationStaleness_settled p nowLocalization h
  have hhealth := checkSensorHealth_settled p nowHealth hloc
  have hfault : SensorFault p (n.checkLocalizationStaleness p nowLocalization) nowHealth ↔
      SensorFault p n nowHealth :=
    sensorFault_congr p (by simp) nowHealth
  have hexpired : RecoveryTimeout p ((n.checkLocalizationStaleness p
        nowLocalization).checkSensorHealth p nowHealth) now order ↔
      RecoveryTimeout p n now order :=
    recoveryTimeout_congr p (by simp) now order
  rw [timerTick_eq, observeClockSample_latchedFault, clockRegression_checked]
  change ((checkSensorRecoveryTimeouts _ _ _ _).machine.latchedFault = true ∨ _) ↔ _
  rw [checkSensorRecoveryTimeouts_latchedFault p now order hhealth, hexpired,
    checkSensorHealth_latchedFault p nowHealth hloc, hfault,
    checkLocalizationStaleness_latchedFault]
  simp only [LatchesInTick, or_assoc]

/-- A machine that is neither in `Moving` nor in `Degraded` is not brought there
by a tick. -/
theorem timerTick_held (h : n.machine.Settled) (hmoving : n.machine.mode ≠ .moving)
    (hdegraded : n.machine.mode ≠ .degraded) :
    (n.timerTick p now nowLocalization nowHealth order).1.machine.mode ≠ .moving ∧
      (n.timerTick p now nowLocalization nowHealth order).1.machine.mode ≠ .degraded := by
  have hloc : (n.checkLocalizationStaleness p nowLocalization).machine.mode ≠ .moving ∧
      (n.checkLocalizationStaleness p nowLocalization).machine.mode ≠ .degraded := by
    by_cases hs : LocalizationStale p n nowLocalization
    · exact checkLocalizationStaleness_mode_of_stale p nowLocalization h hs
    · rw [checkLocalizationStaleness_of_fresh p n nowLocalization hs]
      exact ⟨hmoving, hdegraded⟩
  have hhealth := checkSensorHealth_mode_of_held p nowHealth hloc.1 hloc.2
  constructor
  · rw [timerTick_eq, ne_eq, observeClockSample_mode now (by decide)]
    rintro ⟨hm, -⟩
    exact hhealth.1 ((checkSensorRecoveryTimeouts_mode p now order (by decide)).1 hm).1
  · rw [timerTick_eq, ne_eq, observeClockSample_mode now (by decide)]
    rintro ⟨hm, -⟩
    exact hhealth.2 ((checkSensorRecoveryTimeouts_mode p now order (by decide)).1 hm).1

/-- Under a degraded summary, `Moving` survives a tick exactly when no check
has a reason to leave it. -/
theorem timerTick_moving_iff (h : n.machine.Settled)
    (hd : n.recoveryMgr.worstSensorStatus = SensorHealth.degraded) :
    (n.timerTick p now nowLocalization nowHealth order).1.machine.mode = .moving ↔
      n.machine.mode = .moving ∧ ¬ LocalizationStale p n nowLocalization ∧
        (SummaryFresh p n nowHealth → n.recoveryMgr.inDegradedMode = true) ∧
        ¬ RecoveryTimeout p n now order ∧ ¬ ClockRegression n now := by
  rw [timerTick_eq, observeClockSample_mode now (by decide), clockRegression_checked]
  change ((checkSensorRecoveryTimeouts _ _ _ _).machine.mode = _ ∧ _) ↔ _
  rw [checkSensorRecoveryTimeouts_mode p now order (by decide)]
  by_cases hs : LocalizationStale p n nowLocalization
  · have hmoving := (checkLocalizationStaleness_mode_of_stale p nowLocalization h hs).1
    rw [checkSensorHealth_moving_iff p nowHealth
      (checkLocalizationStaleness_settled p nowLocalization h) (by simpa using hd)]
    simp [hmoving, hs]
  · have hexpired : RecoveryTimeout p (n.checkSensorHealth p nowHealth) now order ↔
        RecoveryTimeout p n now order :=
      recoveryTimeout_congr p (by simp) now order
    rw [checkLocalizationStaleness_of_fresh p n nowLocalization hs,
      checkSensorHealth_moving_iff p nowHealth h hd, hexpired]
    simp [hs, and_assoc]

end Tick

/-! ## Every run -/

section Machine

variable {α : Type*} (n : SafetySupervisorNode α)

theorem handleSensorDegraded_frame [Mul α] [OfScientific α] :
    ∃ machine, n.handleSensorDegraded =
      { n with
        machine := machine
        recoveryMgr := n.recoveryMgr.setDegradedMode true
        speedCtrl := n.speedCtrl.onDegraded } := by
  unfold handleSensorDegraded
  dsimp only
  split <;> exact ⟨_, rfl⟩

/-- A recovery is acted upon once no sensor is degraded any more. -/
theorem handleSensorRecovered_frame (now : UInt64) :
    n.recoveryMgr.isAnyDegraded = true ∧ n.handleSensorRecovered now = n ∨
      n.recoveryMgr.isAnyDegraded = false ∧
        ∃ machine, n.handleSensorRecovered now =
          { n with
            machine := machine
            recoveryMgr := n.recoveryMgr.setDegradedMode false
            speedCtrl := n.speedCtrl.onRecovered now } := by
  unfold handleSensorRecovered
  cases n.recoveryMgr.isAnyDegraded with
  | true => exact .inl ⟨rfl, rfl⟩
  | false =>
      refine .inr ⟨rfl, ?_⟩
      simp only [Bool.not_false, if_true]
      split <;> exact ⟨_, rfl⟩

/-- Beside the machine, clearing a fault may withdraw the stop request. -/
theorem onClearFault_frame :
    ∃ safeStopRequested, n.onClearFault.1 =
      { n with
        machine := n.machine.clearFault.1
        safeStopRequested := safeStopRequested } := by
  unfold onClearFault
  dsimp only
  split <;> exact ⟨_, rfl⟩

variable {n}

theorem onClearFault_settled (h : n.machine.Settled) :
    n.onClearFault.1.machine.Settled := by
  obtain ⟨_, heq⟩ := n.onClearFault_frame
  rw [heq]
  exact h.clearFault

end Machine

section Zones

variable {α : Type*} [Zero α] [LE α] (p : Params α) {n : SafetySupervisorNode α}

theorem settled_initial : (initial p).machine.Settled := by
  change initialMachine.latchedFault = true ↔ initialMachine.mode = .safeStop
  decide

theorem handleZoneTransition_settled (newZone : SafetyZone) (h : n.machine.Settled) :
    (n.handleZoneTransition p newZone).machine.Settled := by
  unfold handleZoneTransition
  cases newZone with
  | clear | warning =>
      dsimp only
      split
      · exact h.transitionTo (by decide)
      · exact h
  | protective =>
      dsimp only
      split
      · exact h.transitionTo (by decide)
      · exact h
  | emergency => exact n.stopWithFault_settled _
  | other raw => exact h

theorem handleZoneTransition_frame (n : SafetySupervisorNode α) (newZone : SafetyZone) :
    ∃ machine safeStopRequested, n.handleZoneTransition p newZone =
      { n with machine := machine, safeStopRequested := safeStopRequested } := by
  unfold handleZoneTransition
  cases newZone with
  | clear | warning | protective =>
      dsimp only
      split <;> exact ⟨_, _, rfl⟩
  | emergency | other => exact ⟨_, _, rfl⟩

/-- Beside the machine and the zone, an envelope may change the stop request. -/
theorem onEnvelope_frame (n : SafetySupervisorNode α) (zone : UInt8) :
    ∃ machine safeStopRequested, n.onEnvelope p zone =
      { n with
        machine := machine
        latestZone := SafetyZone.ofRaw zone
        safeStopRequested := safeStopRequested } := by
  unfold onEnvelope
  dsimp only
  split
  all_goals
    obtain ⟨_, _, heq⟩ := handleZoneTransition_frame p _ (SafetyZone.ofRaw zone)
    exact ⟨_, _, heq⟩

theorem onEnvelope_settled (zone : UInt8) (h : n.machine.Settled) :
    (n.onEnvelope p zone).machine.Settled := by
  unfold onEnvelope
  apply handleZoneTransition_settled
  dsimp only
  split
  · exact h.transitionTo (by decide)
  · exact h

end Zones

section Runs

variable {α : Type*} [Mul α] [OfScientific α] {n : SafetySupervisorNode α}

/-- A health message moves the machine between `Moving` and `Degraded` or not at all, and
touches neither the zone nor the stop request. -/
theorem onSensorHealth_frame (n : SafetySupervisorNode α) (sensorName : String)
    (status : UInt8) (now nowRecovered : UInt64) :
    ∃ machine recoveryMgr speedCtrl,
      (machine = n.machine ∨
        n.machine.mode = .moving ∧ machine = (n.machine.transitionTo .degraded).1 ∨
        n.machine.mode = .degraded ∧ machine = (n.machine.transitionTo .moving).1) ∧
      n.onSensorHealth sensorName status now nowRecovered =
        { n with machine := machine, recoveryMgr := recoveryMgr, speedCtrl := speedCtrl } := by
  unfold onSensorHealth
  split
  · exact ⟨_, _, _, .inl rfl, rfl⟩
  · dsimp only
    split
    · unfold handleSensorDegraded
      dsimp only
      split
      next hmoving => exact ⟨_, _, _, .inr (.inl ⟨hmoving, rfl⟩), rfl⟩
      next => exact ⟨_, _, _, .inl rfl, rfl⟩
    · unfold handleSensorRecovered
      split
      · dsimp only
        split
        next hdegraded => exact ⟨_, _, _, .inr (.inr ⟨hdegraded, rfl⟩), rfl⟩
        next => exact ⟨_, _, _, .inl rfl, rfl⟩
      · exact ⟨_, _, _, .inl rfl, rfl⟩
    · exact ⟨_, _, _, .inl rfl, rfl⟩

theorem onSensorHealth_settled (sensorName : String) (status : UInt8)
    (now nowRecovered : UInt64) (h : n.machine.Settled) :
    (n.onSensorHealth sensorName status now nowRecovered).machine.Settled := by
  obtain ⟨_, _, _, hmachine, heq⟩ := n.onSensorHealth_frame sensorName status now nowRecovered
  rw [heq]
  rcases hmachine with rfl | ⟨-, rfl⟩ | ⟨-, rfl⟩
  · exact h
  · exact h.transitionTo (by decide)
  · exact h.transitionTo (by decide)

variable [Zero α] [Add α] [Sub α] [Div α] [NatCast α] [LE α] (p : Params α)

/-- Every callback keeps the machine settled. -/
theorem settled_preserved :
    (component p).Preserved fun n => n.machine.Settled := by
  intro n e h
  cases e with
  | envelope zone => exact onEnvelope_settled p zone h
  | odom sec nanosec => exact h
  | sensorHealth sensorName status now nowRecovered =>
      exact onSensorHealth_settled sensorName status now nowRecovered h
  | clearFault => exact onClearFault_settled h
  | timerTick now nowLocalization nowHealth order =>
      exact timerTick_settled p now nowLocalization nowHealth order h

/-- In every state of every run, the machine is in the safe stop exactly while a
fault is latched. -/
theorem settled_run (es : List Event) :
    ((component p).run (initial p) es).machine.Settled :=
  (settled_preserved p).run (settled_initial p) es

end Runs

end SafetySupervisorNode

end SafetyCore
