import SafetyCore.Ros.SupervisorNode

/-!
# What the callbacks of the supervisor node do to the mode

Each check of `timer_tick` is described by one predicate on the state before it
and on the clock reading it makes: when it finds the localization stale or
critical, a sensor fault, an expired sensor, a clock regression. The lemmas here
say under which of them a check latches a fault and where it leaves the mode.

They hold for a settled machine, in the safe stop exactly while a fault is
latched, and every callback of the node keeps its machine settled.
-/

namespace SafetyCore

open Transition

namespace SafetySupervisorNode

section NoParams

variable {α : Type*} (n : SafetySupervisorNode α) (faultCode : UInt16) (now : UInt64)

/-- The clock sample lies before the last one. -/
def ClockRegression : Prop :=
  n.supervisor.hasClockSample = true ∧ now < n.supervisor.lastClockNs

@[simp] theorem stopWithFault_mode :
    (n.stopWithFault faultCode).machine.mode = .safeStop := by
  simp [stopWithFault, ModeStateMachine.transitionTo_mode]

@[simp] theorem stopWithFault_latchedFault :
    (n.stopWithFault faultCode).machine.latchedFault = true := by
  simp [stopWithFault]

theorem stopWithFault_settled : (n.stopWithFault faultCode).machine.Settled := by
  simp [ModeStateMachine.Settled]

theorem observeClockSample_of_regression (h : ClockRegression n now) :
    (n.observeClockSample now).machine =
      (n.machine.latchFault SafetySupervisor.kFaultCodeClockRegression).1 := by
  unfold ClockRegression at h
  rw [observeClockSample, SafetySupervisor.observeClockSample_machine, if_pos h]
  rfl

theorem observeClockSample_of_not_regression (h : ¬ ClockRegression n now) :
    (n.observeClockSample now).machine = n.machine := by
  unfold ClockRegression at h
  rw [observeClockSample, SafetySupervisor.observeClockSample_machine, if_neg h]
  rfl

variable {n}

theorem observeClockSample_settled (h : n.machine.Settled) :
    (n.observeClockSample now).machine.Settled := by
  by_cases hr : ClockRegression n now
  · rw [observeClockSample_of_regression n now hr]
    exact ModeStateMachine.Settled.latchFault _ _
  · rwa [observeClockSample_of_not_regression n now hr]

/-- The sample latches a fault exactly when the clock has gone backwards. -/
theorem observeClockSample_latchedFault :
    (n.observeClockSample now).machine.latchedFault = true ↔
      n.machine.latchedFault = true ∨ ClockRegression n now := by
  by_cases hr : ClockRegression n now
  · rw [observeClockSample_of_regression n now hr]
    simp [hr]
  · rw [observeClockSample_of_not_regression n now hr]
    simp [hr]

/-- The sample changes the mode to `SafeStop` or not at all. -/
theorem observeClockSample_mode {mode : Mode} (hmode : mode ≠ .safeStop) :
    (n.observeClockSample now).machine.mode = mode ↔
      n.machine.mode = mode ∧ ¬ ClockRegression n now := by
  by_cases hr : ClockRegression n now
  · rw [observeClockSample_of_regression n now hr]
    simp [hr, hmode.symm]
  · rw [observeClockSample_of_not_regression n now hr]
    simp [hr]

end NoParams

variable {α : Type*} [Zero α] [LE α]

section Predicates

variable (p : Params α) (n : SafetySupervisorNode α) (now : UInt64)

/-- The check finds the last odometry stamp older than the timeout. -/
def LocalizationStale : Prop :=
  ∃ lastOdom, n.lastOdomTimeNs = some lastOdom ∧
    TimeUtils.isStale lastOdom now p.localizationTimeoutNs = true

/-- The supervisor finds the localization age critical. -/
def LocalizationCritical : Prop :=
  p.localizationTimeoutNs ≠ 0 ∧ ∃ lastOdom, n.lastOdomTimeNs = some lastOdom ∧
    p.localizationTimeoutNs < TimeUtils.calculateAgeNs lastOdom now ∧
    2 * p.localizationTimeoutNs ≤ TimeUtils.calculateAgeNs lastOdom now

/-- The check of the sensors has a summary that it does not find stale. -/
def SummaryFresh : Prop :=
  ∃ lastHealth, n.recoveryMgr.lastSensorHealthTimeNs = some lastHealth ∧
    TimeUtils.isStale lastHealth now p.sensorTimeoutNs = false

/-- The summary reports a sensor fault. -/
def SensorFault : Prop :=
  SummaryFresh p n now ∧ n.recoveryMgr.worstSensorStatus = SensorHealth.fault

/-- The first sensor of the scan that has been degraded for too long has a
name; the node takes the empty name for no sensor. -/
def RecoveryTimeout (order : List String) : Prop :=
  (order.find? (n.recoveryMgr.expired now p.recoveryTimeoutNs)).getD "" ≠ ""

end Predicates

/-! ## The localization check -/

section Localization

variable (p : Params α) (n : SafetySupervisorNode α) (now : UInt64)

/-- The machine of the node after the supervisor has observed the age. -/
def observedMachine (lastOdom : UInt64) : ModeStateMachine :=
  (SafetySupervisor.observeLocalizationAge (some n.machine)
    (TimeUtils.calculateAgeNs lastOdom now) p.localizationTimeoutNs).1.getD n.machine

/-- The check does nothing before the first odometry message. Otherwise the age
is observed first, and the loss of the localization is reported unless the
machine is already in `LocalizationLost` or `SafeStop`. -/
theorem checkLocalizationStaleness_eq :
    n.checkLocalizationStaleness p now =
      match n.lastOdomTimeNs with
      | none => n
      | some lastOdom =>
          let m := n.observedMachine p now lastOdom
          { n with
            machine :=
              if TimeUtils.isStale lastOdom now p.localizationTimeoutNs = true ∧
                m.mode ≠ .localizationLost ∧ m.mode ≠ .safeStop then
                m.reportLocalizationLost.1
              else m } := by
  unfold checkLocalizationStaleness
  cases n.lastOdomTimeNs with
  | none => rfl
  | some lastOdom =>
      dsimp only
      rw [← observedMachine]
      generalize n.observedMachine p now lastOdom = m
      simp only [Bool.and_eq_true, decide_eq_true_eq, and_assoc]
      split <;> rfl

theorem observedMachine_of_fresh {lastOdom : UInt64}
    (h : TimeUtils.isStale lastOdom now p.localizationTimeoutNs = false) :
    n.observedMachine p now lastOdom = n.machine := by
  have hage : TimeUtils.calculateAgeNs lastOdom now ≤ p.localizationTimeoutNs := by
    simpa [TimeUtils.isStale] using h
  simp [observedMachine, SafetySupervisor.observeLocalizationAge_fst, hage]

theorem checkLocalizationStaleness_of_fresh (h : ¬ LocalizationStale p n now) :
    n.checkLocalizationStaleness p now = n := by
  rw [checkLocalizationStaleness_eq]
  cases ho : n.lastOdomTimeNs with
  | none => rfl
  | some lastOdom =>
      have hfresh : TimeUtils.isStale lastOdom now p.localizationTimeoutNs = false := by
        by_contra hs
        exact h ⟨lastOdom, ho, by simpa using hs⟩
      simp [observedMachine_of_fresh p n now hfresh, hfresh, ← ho]

/-- The check changes nothing but the machine. -/
theorem checkLocalizationStaleness_frame :
    ∃ machine, n.checkLocalizationStaleness p now = { n with machine := machine } := by
  rw [checkLocalizationStaleness_eq]
  split
  · exact ⟨n.machine, rfl⟩
  · exact ⟨_, rfl⟩

@[simp] theorem checkLocalizationStaleness_latestZone :
    (n.checkLocalizationStaleness p now).latestZone = n.latestZone := by
  obtain ⟨_, h⟩ := checkLocalizationStaleness_frame p n now
  rw [h]

@[simp] theorem checkLocalizationStaleness_supervisor :
    (n.checkLocalizationStaleness p now).supervisor = n.supervisor := by
  obtain ⟨_, h⟩ := checkLocalizationStaleness_frame p n now
  rw [h]

@[simp] theorem checkLocalizationStaleness_recoveryMgr :
    (n.checkLocalizationStaleness p now).recoveryMgr = n.recoveryMgr := by
  obtain ⟨_, h⟩ := checkLocalizationStaleness_frame p n now
  rw [h]

@[simp] theorem checkLocalizationStaleness_speedCtrl :
    (n.checkLocalizationStaleness p now).speedCtrl = n.speedCtrl := by
  obtain ⟨_, h⟩ := checkLocalizationStaleness_frame p n now
  rw [h]

variable {n}

theorem settled_observedMachine (h : n.machine.Settled) (lastOdom : UInt64) :
    (n.observedMachine p now lastOdom).Settled := by
  rw [observedMachine, SafetySupervisor.observeLocalizationAge_fst, Option.getD_some]
  split
  · exact h
  · split
    · exact ModeStateMachine.Settled.latchFault _ _
    · exact h.transitionTo (by decide)

theorem checkLocalizationStaleness_settled (h : n.machine.Settled) :
    (n.checkLocalizationStaleness p now).machine.Settled := by
  rw [checkLocalizationStaleness_eq]
  cases n.lastOdomTimeNs with
  | none => exact h
  | some lastOdom =>
      have hm := settled_observedMachine p now h lastOdom
      dsimp only
      split
      · exact hm.transitionTo (by decide)
      · exact hm

/-- The check latches a fault exactly when the supervisor finds the age
critical. -/
theorem checkLocalizationStaleness_latchedFault :
    (n.checkLocalizationStaleness p now).machine.latchedFault = true ↔
      n.machine.latchedFault = true ∨ LocalizationCritical p n now := by
  rw [checkLocalizationStaleness_eq]
  cases ho : n.lastOdomTimeNs with
  | none => simp [LocalizationCritical, ho]
  | some lastOdom =>
      have hm : (n.observedMachine p now lastOdom).latchedFault = true ↔
          n.machine.latchedFault = true ∨ LocalizationCritical p n now := by
        rw [observedMachine, SafetySupervisor.observeLocalizationAge_fst,
          Option.getD_some]
        by_cases hfresh : p.localizationTimeoutNs = 0 ∨
            TimeUtils.calculateAgeNs lastOdom now ≤ p.localizationTimeoutNs
        · have hnot : ¬ LocalizationCritical p n now := by
            rintro ⟨hpos, _, hl, hlt, -⟩
            cases ho.symm.trans hl
            exact hfresh.elim hpos (UInt64.not_le.2 hlt)
          simp [hfresh, hnot]
        · rw [if_neg hfresh]
          rw [not_or, UInt64.not_le] at hfresh
          split
          · rename_i hcrit
            exact iff_of_true rfl (.inr ⟨hfresh.1, lastOdom, ho, hfresh.2, hcrit⟩)
          · rename_i hcrit
            have hnot : ¬ LocalizationCritical p n now := by
              rintro ⟨-, _, hl, -, hle⟩
              cases ho.symm.trans hl
              exact hcrit hle
            simp [hnot]
      rw [← hm]
      dsimp only
      split
      · exact Iff.of_eq (congrArg (· = true)
          (ModeStateMachine.transitionTo_latchedFault _ _))
      · rfl

/-- A stale localization leaves the machine neither in `Moving` nor in
`Degraded`: both may be left for `LocalizationLost`. -/
theorem checkLocalizationStaleness_mode_of_stale (h : n.machine.Settled)
    (hs : LocalizationStale p n now) :
    (n.checkLocalizationStaleness p now).machine.mode ≠ .moving ∧
      (n.checkLocalizationStaleness p now).machine.mode ≠ .degraded := by
  obtain ⟨lastOdom, ho, hstale⟩ := hs
  have hm := settled_observedMachine p now h lastOdom
  rw [checkLocalizationStaleness_eq, ho]
  dsimp only
  generalize n.observedMachine p now lastOdom = m at hm
  split
  · rw [ModeStateMachine.reportLocalizationLost, hm.transitionTo_mode (by decide)]
    cases m.mode <;> decide
  · rename_i hnot
    cases hmode : m.mode with
    | moving | degraded => exact absurd ⟨hstale, by simp [hmode], by simp [hmode]⟩ hnot
    | _ => decide

end Localization

/-! ## The check of the sensor summary -/

section Health

variable (p : Params α) (n : SafetySupervisorNode α) (now : UInt64)

theorem checkSensorHealth_of_not_fresh (h : ¬ SummaryFresh p n now) :
    n.checkSensorHealth p now = n := by
  unfold checkSensorHealth
  dsimp only
  split
  · rfl
  · cases hl : n.recoveryMgr.lastSensorHealthTimeNs with
    | none => rfl
    | some lastHealth =>
        have hstale : TimeUtils.isStale lastHealth now p.sensorTimeoutNs = true := by
          by_contra hs
          exact h ⟨lastHealth, hl, by simpa using hs⟩
        simp [hstale]

/-- With a fresh summary, the summary and the mode decide. -/
theorem checkSensorHealth_of_fresh (h : SummaryFresh p n now) :
    n.checkSensorHealth p now =
      if n.machine.mode = .safeStop then n
      else if n.recoveryMgr.worstSensorStatus = SensorHealth.fault then
        { n.stopWithFault 0xE002 with
          recoveryMgr := n.recoveryMgr.setDegradedMode false }
      else if n.recoveryMgr.worstSensorStatus = SensorHealth.degraded ∧
          n.machine.mode = .moving ∧ n.recoveryMgr.inDegradedMode = false then
        { n with
          machine := (n.machine.transitionTo .degraded).1
          recoveryMgr := n.recoveryMgr.setDegradedMode true }
      else if n.recoveryMgr.worstSensorStatus = SensorHealth.healthy ∧
          n.machine.mode = .degraded ∧ n.recoveryMgr.inDegradedMode = true then
        { n with
          machine := (n.machine.transitionTo .moving).1
          recoveryMgr := n.recoveryMgr.setDegradedMode false }
      else n := by
  obtain ⟨lastHealth, hl, hfresh⟩ := h
  unfold checkSensorHealth
  simp only [hl, hfresh, Bool.false_eq_true, if_false]
  have hne : ¬ SensorHealth.degraded = SensorHealth.healthy := by decide
  by_cases hd : n.recoveryMgr.worstSensorStatus = SensorHealth.degraded
  · cases n.recoveryMgr.inDegradedMode <;> simp [hd, hne, stopWithFault]
  · by_cases hh : n.recoveryMgr.worstSensorStatus = SensorHealth.healthy
    · have hne' : ¬ SensorHealth.healthy = SensorHealth.degraded := by decide
      cases n.recoveryMgr.inDegradedMode <;> simp [hh, hne', stopWithFault]
    · simp [hd, hh, stopWithFault]

/-- Beside the machine, the check may change the stop request and the degraded
flag of the manager. -/
theorem checkSensorHealth_frame :
    ∃ machine safeStopRequested inDegradedMode,
      n.checkSensorHealth p now =
        { n with
          machine := machine
          safeStopRequested := safeStopRequested
          recoveryMgr := n.recoveryMgr.setDegradedMode inDegradedMode } := by
  by_cases h : SummaryFresh p n now
  · rw [checkSensorHealth_of_fresh p n now h]
    repeat' split
    all_goals exact ⟨_, _, _, rfl⟩
  · rw [checkSensorHealth_of_not_fresh p n now h]
    exact ⟨_, _, _, rfl⟩

@[simp] theorem checkSensorHealth_latestZone :
    (n.checkSensorHealth p now).latestZone = n.latestZone := by
  obtain ⟨_, _, _, h⟩ := checkSensorHealth_frame p n now
  rw [h]

@[simp] theorem checkSensorHealth_supervisor :
    (n.checkSensorHealth p now).supervisor = n.supervisor := by
  obtain ⟨_, _, _, h⟩ := checkSensorHealth_frame p n now
  rw [h]

@[simp] theorem checkSensorHealth_speedCtrl :
    (n.checkSensorHealth p now).speedCtrl = n.speedCtrl := by
  obtain ⟨_, _, _, h⟩ := checkSensorHealth_frame p n now
  rw [h]

@[simp] theorem checkSensorHealth_sensorStates :
    (n.checkSensorHealth p now).recoveryMgr.sensorStates =
      n.recoveryMgr.sensorStates := by
  obtain ⟨_, _, _, h⟩ := checkSensorHealth_frame p n now
  rw [h]
  rfl

variable {n}

theorem checkSensorHealth_settled (h : n.machine.Settled) :
    (n.checkSensorHealth p now).machine.Settled := by
  by_cases hf : SummaryFresh p n now
  · rw [checkSensorHealth_of_fresh p n now hf]
    repeat' split
    · exact h
    · exact n.stopWithFault_settled _
    · exact h.transitionTo (by decide)
    · exact h.transitionTo (by decide)
    · exact h
  · rwa [checkSensorHealth_of_not_fresh p n now hf]

/-- The check latches a fault exactly when the summary reports one. -/
theorem checkSensorHealth_latchedFault (h : n.machine.Settled) :
    (n.checkSensorHealth p now).machine.latchedFault = true ↔
      n.machine.latchedFault = true ∨ SensorFault p n now := by
  by_cases hf : SummaryFresh p n now
  · rw [checkSensorHealth_of_fresh p n now hf]
    by_cases hstop : n.machine.mode = .safeStop
    · rw [if_pos hstop]
      simp [h.2 hstop]
    · by_cases hfault : n.recoveryMgr.worstSensorStatus = SensorHealth.fault
      · rw [if_neg hstop, if_pos hfault]
        exact iff_of_true (n.stopWithFault_latchedFault _) (.inr ⟨hf, hfault⟩)
      · have hnot : ¬ SensorFault p n now := fun hq => hfault hq.2
        rw [if_neg hstop, if_neg hfault]
        split
        · simp [hnot]
        · split <;> simp [hnot]
  · have hnot : ¬ SensorFault p n now := fun hq => hf hq.1
    rw [checkSensorHealth_of_not_fresh p n now hf]
    simp [hnot]

/-- The check leaves `Moving` only, and `Degraded` only for `Moving`. -/
theorem checkSensorHealth_mode_of_held
    (hmoving : n.machine.mode ≠ .moving) (hdegraded : n.machine.mode ≠ .degraded) :
    (n.checkSensorHealth p now).machine.mode ≠ .moving ∧
      (n.checkSensorHealth p now).machine.mode ≠ .degraded := by
  by_cases hf : SummaryFresh p n now
  · rw [checkSensorHealth_of_fresh p n now hf]
    by_cases hstop : n.machine.mode = .safeStop
    · simp [hstop]
    · by_cases hfault : n.recoveryMgr.worstSensorStatus = SensorHealth.fault
      · simp [hstop, hfault]
      · simp [hstop, hfault, hmoving, hdegraded]
  · rw [checkSensorHealth_of_not_fresh p n now hf]
    exact ⟨hmoving, hdegraded⟩

/-- Under a degraded summary, `Moving` survives the check exactly when the
summary is found stale or the degraded flag is already set. -/
theorem checkSensorHealth_moving_iff (h : n.machine.Settled)
    (hd : n.recoveryMgr.worstSensorStatus = SensorHealth.degraded) :
    (n.checkSensorHealth p now).machine.mode = .moving ↔
      n.machine.mode = .moving ∧
        (SummaryFresh p n now → n.recoveryMgr.inDegradedMode = true) := by
  by_cases hf : SummaryFresh p n now
  · have hnf : ¬ SensorHealth.degraded = SensorHealth.fault := by decide
    have hnh : ¬ SensorHealth.degraded = SensorHealth.healthy := by decide
    rw [checkSensorHealth_of_fresh p n now hf, hd, if_neg hnf]
    by_cases hm : n.machine.mode = .moving
    · cases hflag : n.recoveryMgr.inDegradedMode
      · simp [hm, hf, h.transitionTo_mode, Mode.allowed]
      · simp [hm, hnh]
    · simp only [hm, false_and, and_false, if_false, hnh, iff_false]
      split <;> exact hm
  · simp [checkSensorHealth_of_not_fresh p n now hf, hf]

end Health

/-! ## The recovery timeouts -/

section Timeouts

variable (p : Params α) (n : SafetySupervisorNode α) (now : UInt64)
  (order : List String)

theorem checkSensorRecoveryTimeouts_of_safeStop (h : n.machine.mode = .safeStop) :
    n.checkSensorRecoveryTimeouts p now order = n := by
  simp [checkSensorRecoveryTimeouts, h]

theorem checkSensorRecoveryTimeouts_of_expired (hstop : n.machine.mode ≠ .safeStop)
    (h : RecoveryTimeout p n now order) :
    n.checkSensorRecoveryTimeouts p now order =
      { n.stopWithFault 0xE003 with
        recoveryMgr := (n.recoveryMgr.checkTimeouts now p.recoveryTimeoutNs
          order).1.setDegradedMode false } := by
  rw [RecoveryTimeout, ← SensorRecoveryManager.checkTimeouts_snd] at h
  simp [checkSensorRecoveryTimeouts, hstop, h, stopWithFault]

theorem checkSensorRecoveryTimeouts_of_not_expired
    (hstop : n.machine.mode ≠ .safeStop) (h : ¬ RecoveryTimeout p n now order) :
    n.checkSensorRecoveryTimeouts p now order =
      { n with
        recoveryMgr :=
          (n.recoveryMgr.checkTimeouts now p.recoveryTimeoutNs order).1 } := by
  rw [RecoveryTimeout, ← SensorRecoveryManager.checkTimeouts_snd] at h
  simp only [checkSensorRecoveryTimeouts, hstop, h]
  rfl

/-- Beside the machine, the check may change the stop request, the degraded flag
of the manager and, by the scan, its records. -/
theorem checkSensorRecoveryTimeouts_frame :
    ∃ machine safeStopRequested recoveryMgr,
      n.checkSensorRecoveryTimeouts p now order =
        { n with
          machine := machine
          safeStopRequested := safeStopRequested
          recoveryMgr := recoveryMgr } ∧
      (recoveryMgr.sensorStates = n.recoveryMgr.sensorStates ∨
        recoveryMgr.sensorStates = (n.recoveryMgr.checkTimeouts now
          p.recoveryTimeoutNs order).1.sensorStates) := by
  by_cases hstop : n.machine.mode = .safeStop
  · rw [checkSensorRecoveryTimeouts_of_safeStop p n now order hstop]
    exact ⟨_, _, _, rfl, .inl rfl⟩
  · by_cases h : RecoveryTimeout p n now order
    · rw [checkSensorRecoveryTimeouts_of_expired p n now order hstop h]
      exact ⟨_, _, _, rfl, .inr rfl⟩
    · rw [checkSensorRecoveryTimeouts_of_not_expired p n now order hstop h]
      exact ⟨_, _, _, rfl, .inr rfl⟩

@[simp] theorem checkSensorRecoveryTimeouts_latestZone :
    (n.checkSensorRecoveryTimeouts p now order).latestZone = n.latestZone := by
  obtain ⟨_, _, _, h, -⟩ := checkSensorRecoveryTimeouts_frame p n now order
  rw [h]

@[simp] theorem checkSensorRecoveryTimeouts_supervisor :
    (n.checkSensorRecoveryTimeouts p now order).supervisor = n.supervisor := by
  obtain ⟨_, _, _, h, -⟩ := checkSensorRecoveryTimeouts_frame p n now order
  rw [h]

@[simp] theorem checkSensorRecoveryTimeouts_speedCtrl :
    (n.checkSensorRecoveryTimeouts p now order).speedCtrl = n.speedCtrl := by
  obtain ⟨_, _, _, h, -⟩ := checkSensorRecoveryTimeouts_frame p n now order
  rw [h]

variable {n}

theorem checkSensorRecoveryTimeouts_settled (h : n.machine.Settled) :
    (n.checkSensorRecoveryTimeouts p now order).machine.Settled := by
  by_cases hstop : n.machine.mode = .safeStop
  · rwa [checkSensorRecoveryTimeouts_of_safeStop p n now order hstop]
  · by_cases ht : RecoveryTimeout p n now order
    · rw [checkSensorRecoveryTimeouts_of_expired p n now order hstop ht]
      exact n.stopWithFault_settled _
    · rwa [checkSensorRecoveryTimeouts_of_not_expired p n now order hstop ht]

/-- The check latches a fault exactly when the scan names a sensor. -/
theorem checkSensorRecoveryTimeouts_latchedFault (h : n.machine.Settled) :
    (n.checkSensorRecoveryTimeouts p now order).machine.latchedFault = true ↔
      n.machine.latchedFault = true ∨ RecoveryTimeout p n now order := by
  by_cases hstop : n.machine.mode = .safeStop
  · rw [checkSensorRecoveryTimeouts_of_safeStop p n now order hstop]
    simp [h.2 hstop]
  · by_cases ht : RecoveryTimeout p n now order
    · rw [checkSensorRecoveryTimeouts_of_expired p n now order hstop ht]
      simp [ht]
    · rw [checkSensorRecoveryTimeouts_of_not_expired p n now order hstop ht]
      simp [ht]

/-- The check changes the mode to `SafeStop` or not at all. -/
theorem checkSensorRecoveryTimeouts_mode {mode : Mode} (hmode : mode ≠ .safeStop) :
    (n.checkSensorRecoveryTimeouts p now order).machine.mode = mode ↔
      n.machine.mode = mode ∧ ¬ RecoveryTimeout p n now order := by
  by_cases hstop : n.machine.mode = .safeStop
  · rw [checkSensorRecoveryTimeouts_of_safeStop p n now order hstop, hstop]
    simp [hmode.symm]
  · by_cases ht : RecoveryTimeout p n now order
    · rw [checkSensorRecoveryTimeouts_of_expired p n now order hstop ht]
      simp [ht, hmode.symm]
    · rw [checkSensorRecoveryTimeouts_of_not_expired p n now order hstop ht]
      simp [ht]

end Timeouts

end SafetySupervisorNode

end SafetyCore
