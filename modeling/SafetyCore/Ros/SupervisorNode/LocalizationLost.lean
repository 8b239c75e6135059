import SafetyCore.Ros.SupervisorNode.FaultLatch

/-!
# Lost localization

No callback calls `recover_localization`, and every other request that the machine would
grant in `LocalizationLost` is made in other modes only or latches a fault. A tick that
finds the odometry stale may leave `LocalizationLost` for `Degraded`, but it reports the
loss once more before it ends. So the node leaves the mode by a fault or not at all,
whether the odometry is fresh again or not.
-/

namespace SafetyCore

open Transition

namespace SafetySupervisorNode

section Definitions

variable {α : Type*}

/-- The localization is lost, unless a fault is latched. -/
def Trapped (n : SafetySupervisorNode α) : Prop :=
  n.machine.mode = .localizationLost ∨ n.machine.latchedFault = true

theorem Trapped.of_mode {n n' : SafetySupervisorNode α}
    (hlost : n.machine.mode = .localizationLost)
    (h : n'.machine.mode = n.machine.mode) : Trapped n' :=
  .inl (h.trans hlost)

variable [Zero α] [LE α] (p : Params α)

/-- A callback other than `on_clear_fault`; if it is a tick, it finds the odometry
fresh. -/
def FreshCallback (n : SafetySupervisorNode α) (e : Event) : Prop :=
  e ≠ .clearFault ∧ ∀ now nowLocalization nowHealth order,
    e = .timerTick now nowLocalization nowHealth order →
      ¬ LocalizationStale p n nowLocalization

end Definitions

section Callbacks

variable {α : Type*} [Zero α] [LE α] (p : Params α) {n : SafetySupervisorNode α}

theorem trapped_onEnvelope (hlost : n.machine.mode = .localizationLost) (zone : UInt8) :
    Trapped (n.onEnvelope p zone) := by
  unfold onEnvelope
  simp only [hlost, reduceCtorEq, decide_false, Bool.false_and, Bool.false_eq_true, if_false]
  generalize SafetyZone.ofRaw zone = z
  unfold handleZoneTransition
  cases z with
  | emergency => exact .inr (stopWithFault_latchedFault _ _)
  | _ => exact .of_mode hlost (by simp [hlost])

/-- A stale localization is reported again after the supervisor has asked for
`Degraded`. -/
theorem trapped_checkLocalizationStaleness (hlost : n.machine.mode = .localizationLost)
    (h : n.machine.Settled) (now : UInt64) :
    Trapped (n.checkLocalizationStaleness p now) := by
  by_cases hs : LocalizationStale p n now
  · obtain ⟨lastOdom, ho, hstale⟩ := hs
    have hm := settled_observedMachine p now h lastOdom
    have hmode : (n.observedMachine p now lastOdom).mode = .localizationLost ∨
        (n.observedMachine p now lastOdom).mode = .safeStop ∨
        (n.observedMachine p now lastOdom).mode = .degraded := by
      rw [observedMachine, SafetySupervisor.observeLocalizationAge_fst, Option.getD_some]
      split
      · exact .inl hlost
      · split
        · exact .inr (.inl rfl)
        · rw [h.transitionTo_mode (by decide), hlost]
          exact .inr (.inr rfl)
    unfold Trapped
    rw [checkLocalizationStaleness_eq, ho]
    dsimp only
    generalize n.observedMachine p now lastOdom = m at hm hmode
    rcases hmode with hmode | hmode | hmode
    · simp [hmode]
    · simp [hmode, hm.2 hmode]
    · rw [if_pos ⟨hstale, by simp [hmode], by simp [hmode]⟩,
        ModeStateMachine.reportLocalizationLost, hm.transitionTo_mode (by decide), hmode]
      exact .inl rfl
  · rw [checkLocalizationStaleness_of_fresh p n now hs]
    exact .inl hlost

theorem trapped_checkSensorHealth (hlost : n.machine.mode = .localizationLost)
    (now : UInt64) : Trapped (n.checkSensorHealth p now) := by
  by_cases hf : SummaryFresh p n now
  · rw [checkSensorHealth_of_fresh p n now hf]
    by_cases hfault : n.recoveryMgr.worstSensorStatus = SensorHealth.fault
    · simp [hlost, hfault, Trapped]
    · simp [hlost, hfault, Trapped]
  · rw [checkSensorHealth_of_not_fresh p n now hf]
    exact .inl hlost

theorem trapped_checkSensorRecoveryTimeouts
    (hlost : n.machine.mode = .localizationLost) (now : UInt64) (order : List String) :
    Trapped (n.checkSensorRecoveryTimeouts p now order) := by
  have hstop : n.machine.mode ≠ .safeStop := by simp [hlost]
  by_cases ht : RecoveryTimeout p n now order
  · rw [checkSensorRecoveryTimeouts_of_expired p n now order hstop ht]
    exact .inr (stopWithFault_latchedFault _ _)
  · rw [checkSensorRecoveryTimeouts_of_not_expired p n now order hstop ht]
    exact .inl hlost

omit [Zero α] [LE α] in
theorem trapped_observeClockSample (hlost : n.machine.mode = .localizationLost)
    (now : UInt64) : Trapped (n.observeClockSample now) := by
  by_cases hr : ClockRegression n now
  · rw [Trapped, observeClockSample_of_regression n now hr]
    exact .inr rfl
  · rw [Trapped, observeClockSample_of_not_regression n now hr]
    exact .inl hlost

omit [Zero α] [LE α] in
/-- Between two checks of a tick: a latched fault stays latched, and the next check
deals with a lost localization. -/
theorem Trapped.step {n' : SafetySupervisorNode α} (h : Trapped n) (hkeep : KeepsStop n n')
    (hlost : n.machine.mode = .localizationLost → Trapped n') : Trapped n' :=
  h.elim hlost fun hl => .inr (hkeep.latched hl)

variable [Mul α] [OfScientific α]

omit [Zero α] [LE α] in
theorem trapped_onSensorHealth (hlost : n.machine.mode = .localizationLost)
    (sensorName : String) (status : UInt8) (now nowRecovered : UInt64) :
    Trapped (n.onSensorHealth sensorName status now nowRecovered) := by
  obtain ⟨_, _, _, hmachine, heq⟩ := n.onSensorHealth_frame sensorName status now nowRecovered
  rw [heq]
  rcases hmachine with rfl | ⟨hmode, -⟩ | ⟨hmode, -⟩
  · exact .inl hlost
  · rw [hlost] at hmode
    cases hmode
  · rw [hlost] at hmode
    cases hmode

variable [Add α] [Sub α] [Div α] [NatCast α]

theorem trapped_timerTick (hlost : n.machine.mode = .localizationLost)
    (h : n.machine.Settled) (now nowLocalization nowHealth : UInt64) (order : List String) :
    Trapped (n.timerTick p now nowLocalization nowHealth order).1 := by
  have hlocalization := trapped_checkLocalizationStaleness p hlost h nowLocalization
  have hhealth := hlocalization.step (keepsStop_checkSensorHealth p _ nowHealth)
    fun hl => trapped_checkSensorHealth p hl nowHealth
  have hchecked : Trapped (n.checked p now nowLocalization nowHealth order) :=
    hhealth.step (keepsStop_checkSensorRecoveryTimeouts p _ now order)
      fun hl => trapped_checkSensorRecoveryTimeouts p hl now order
  have hlimit : Trapped ((n.checked p now nowLocalization nowHealth order).updateSpeedLimit
      now) := hchecked
  rw [timerTick_eq]
  exact hlimit.step (keepsStop_observeClockSample _ now)
    fun hl => trapped_observeClockSample hl now

/-- Every callback but `on_clear_fault` keeps the node trapped. -/
theorem trapped_next {e : Event} (he : e ≠ .clearFault) (h : n.machine.Settled)
    (ht : Trapped n) : Trapped ((component p).next n e) := by
  refine ht.step (keepsStop_next p n he) fun hlost => ?_
  cases e with
  | envelope zone => exact trapped_onEnvelope p hlost zone
  | odom sec nanosec => exact .inl hlost
  | sensorHealth sensorName status now nowRecovered =>
      exact trapped_onSensorHealth hlost sensorName status now nowRecovered
  | clearFault => exact absurd rfl he
  | timerTick now nowLocalization nowHealth order =>
      exact trapped_timerTick p hlost h now nowLocalization nowHealth order

/-- No run of callbacks other than `on_clear_fault` leads out of `LocalizationLost`, if
none of them leaves a latched fault behind. -/
theorem localizationLost_run (hlost : n.machine.mode = .localizationLost)
    (h : n.machine.Settled) {fs : List Event}
    (hfs : (component p).Along
      (fun n e => e ≠ .clearFault ∧ ((component p).next n e).machine.latchedFault = false)
      n fs) :
    ((component p).run n fs).machine.mode = .localizationLost := by
  refine (Component.Along.run (C := component p)
    (I := fun n : SafetySupervisorNode α =>
      n.machine.Settled ∧ n.machine.mode = .localizationLost) ?_ ⟨h, hlost⟩ hfs).2
  rintro n e ⟨he, hlatched⟩ ⟨hsettled, hmode⟩
  have htrapped := trapped_next p he hsettled (.inl hmode)
  exact ⟨settled_preserved p n e hsettled, htrapped.resolve_right (by simp [hlatched])⟩

/-- The callbacks of the continuation find the odometry fresh, do not clear a fault and
leave none latched, and they end in another mode than `LocalizationLost`. -/
def LeavesLocalizationLost (n : SafetySupervisorNode α) (fs : List Event) : Prop :=
  (component p).Along
      (fun n e => FreshCallback p n e ∧
        ((component p).next n e).machine.latchedFault = false) n fs ∧
    ((component p).run n fs).machine.mode ≠ .localizationLost

theorem not_leavesLocalizationLost (hlost : n.machine.mode = .localizationLost)
    (h : n.machine.Settled) (fs : List Event) : ¬ LeavesLocalizationLost p n fs := by
  rintro ⟨hfs, hleft⟩
  refine hleft (localizationLost_run p hlost h ?_)
  exact Component.Along.imp (I := fun _ => True) (fun _ _ _ _ => trivial)
    (fun _ _ he _ => ⟨he.1.1, he.2⟩) trivial hfs

/-- From no reachable state with a lost localization does any continuation lead out of
`LocalizationLost`. In such a state no fault is latched, since a latched fault goes with
the safe stop. -/
theorem localizationLost_trap (es : List Event)
    (hlost : ((component p).run (initial p) es).machine.mode = .localizationLost) :
    ¬ ∃ fs, LeavesLocalizationLost p ((component p).run (initial p) es) fs := by
  rintro ⟨fs, hfs⟩
  exact not_leavesLocalizationLost p hlost (settled_run p es) fs hfs

end Callbacks

/-- A moving robot whose odometry has been silent for 0.6 s. -/
def silentOdometry : List Event :=
  [.envelope 0, .odom 0 0, .timerTick 600000000 600000000 600000000 []]

theorem localizationLost_trap_silentOdometry :
    ¬ ∃ fs, LeavesLocalizationLost Params.default
      ((component Params.default).run (initial Params.default) silentOdometry) fs :=
  localizationLost_trap Params.default silentOdometry (by decide +kernel)

/-- The localization that this robot has lost stays lost. -/
theorem localizationLost_not_left :
    ¬ ∀ (p : Params ℚ) (es : List Event),
      ((component p).run (initial p) es).machine.mode = .localizationLost →
      ((component p).run (initial p) es).machine.latchedFault = false →
      ∃ fs, LeavesLocalizationLost p ((component p).run (initial p) es) fs := by
  intro h
  have hlost : ((component Params.default).run (initial Params.default)
      silentOdometry).machine.mode = .localizationLost := by decide +kernel
  obtain ⟨fs, hfs⟩ := h Params.default silentOdometry hlost (by decide +kernel)
  exact not_leavesLocalizationLost Params.default hlost
    (settled_run Params.default silentOdometry) fs hfs

end SafetySupervisorNode

end SafetyCore
