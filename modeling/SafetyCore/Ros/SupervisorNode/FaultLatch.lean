import SafetyCore.Ros.SupervisorNode.Tick

/-!
# The fault latch of the supervisor node

The node enters the safe stop by latching a fault and leaves it by clearing the
fault, whichever of its five routes latches and whatever the other callbacks do
in between. `KeepsStop` says what every callback but `on_clear_fault` preserves:
a latched fault stays latched, and a safe stop is requested only together with
one. It composes, so a tick keeps the stop because each of its checks does.
-/

namespace SafetyCore

open Transition

namespace SafetySupervisorNode

section Definitions

variable {α : Type*}

/-- The safe stop is in force exactly while a fault is latched, and it is
requested only while it is in force. -/
structure SafeStopHeld (n : SafetySupervisorNode α) : Prop where
  settled : n.machine.latchedFault = true ↔ n.machine.mode = .safeStop
  requested : n.safeStopRequested = true → n.machine.mode = .safeStop

/-- From `n` to `n'`, a latched fault stays latched, and a safe stop that is newly
requested comes with a latched fault. -/
structure KeepsStop (n n' : SafetySupervisorNode α) : Prop where
  latched : n.machine.latchedFault = true → n'.machine.latchedFault = true
  requested : n'.safeStopRequested = true →
    n.safeStopRequested = true ∨ n'.machine.latchedFault = true

namespace KeepsStop

variable {n n' n'' : SafetySupervisorNode α}

theorem refl (n : SafetySupervisorNode α) : KeepsStop n n := ⟨id, .inl⟩

theorem trans (h : KeepsStop n n') (h' : KeepsStop n' n'') : KeepsStop n n'' := by
  refine ⟨fun hl => h'.latched (h.latched hl), fun hr => ?_⟩
  rcases h'.requested hr with hr' | hl
  · exact (h.requested hr').imp_right h'.latched
  · exact .inr hl

/-- A step that neither latches nor clears, and requests nothing. -/
theorem of_eq (hl : n'.machine.latchedFault = n.machine.latchedFault)
    (hr : n'.safeStopRequested = true → n.safeStopRequested = true) :
    KeepsStop n n' :=
  ⟨fun h => hl.trans h, fun h => .inl (hr h)⟩

theorem of_latched (hl : n'.machine.latchedFault = true) : KeepsStop n n' :=
  ⟨fun _ => hl, fun _ => .inr hl⟩

end KeepsStop

theorem SafeStopHeld.keepsStop {n n' : SafetySupervisorNode α} (h : SafeStopHeld n)
    (hkeep : KeepsStop n n') (hsettled : n'.machine.Settled) : SafeStopHeld n' := by
  refine ⟨hsettled, fun hr => hsettled.1 ?_⟩
  rcases hkeep.requested hr with hr' | hl
  · exact hkeep.latched (h.settled.2 (h.requested hr'))
  · exact hl

end Definitions

/-! ## The callbacks -/

section Callbacks

variable {α : Type*} [Zero α] [LE α] (p : Params α) (n : SafetySupervisorNode α)

theorem safeStopHeld_initial : SafeStopHeld (initial p) :=
  ⟨settled_initial p, fun h => absurd h (by simp [initial])⟩

theorem keepsStop_handleZoneTransition (newZone : SafetyZone) :
    KeepsStop n (n.handleZoneTransition p newZone) := by
  unfold handleZoneTransition
  cases newZone with
  | clear | warning =>
      dsimp only
      split
      · exact .of_eq (by simp) (by simp)
      · exact .refl n
  | protective =>
      dsimp only
      split
      · exact .of_eq (by simp [ModeStateMachine.requestObstacleHold]) id
      · exact .refl n
  | emergency => exact .of_latched (n.stopWithFault_latchedFault _)
  | other raw => exact .refl n

theorem keepsStop_onEnvelope (zone : UInt8) : KeepsStop n (n.onEnvelope p zone) := by
  unfold onEnvelope
  refine KeepsStop.trans ?_ (keepsStop_handleZoneTransition p _ _)
  dsimp only
  split
  · exact .of_eq (by simp) (by simp)
  · exact .of_eq rfl id

theorem keepsStop_checkLocalizationStaleness (now : UInt64) :
    KeepsStop n (n.checkLocalizationStaleness p now) := by
  refine ⟨fun hl => (checkLocalizationStaleness_latchedFault p now).2 (.inl hl),
    fun hr => .inl ?_⟩
  obtain ⟨_, heq⟩ := checkLocalizationStaleness_frame p n now
  rwa [heq] at hr

theorem keepsStop_checkSensorHealth (now : UInt64) :
    KeepsStop n (n.checkSensorHealth p now) := by
  by_cases hf : SummaryFresh p n now
  · rw [checkSensorHealth_of_fresh p n now hf]
    split
    · exact .refl n
    · split
      · exact .of_latched (n.stopWithFault_latchedFault _)
      · split
        · exact .of_eq (by simp) id
        · split
          · exact .of_eq (by simp) id
          · exact .refl n
  · rw [checkSensorHealth_of_not_fresh p n now hf]
    exact .refl n

theorem keepsStop_checkSensorRecoveryTimeouts (now : UInt64) (order : List String) :
    KeepsStop n (n.checkSensorRecoveryTimeouts p now order) := by
  by_cases hstop : n.machine.mode = .safeStop
  · rw [checkSensorRecoveryTimeouts_of_safeStop p n now order hstop]
    exact .refl n
  · by_cases ht : RecoveryTimeout p n now order
    · rw [checkSensorRecoveryTimeouts_of_expired p n now order hstop ht]
      exact .of_latched (n.stopWithFault_latchedFault _)
    · rw [checkSensorRecoveryTimeouts_of_not_expired p n now order hstop ht]
      exact .of_eq rfl id

omit [Zero α] [LE α] in
theorem keepsStop_observeClockSample (now : UInt64) :
    KeepsStop n (n.observeClockSample now) :=
  ⟨fun hl => (observeClockSample_latchedFault now).2 (.inl hl), .inl⟩

variable [Mul α] [OfScientific α]

omit [Zero α] [LE α] in
theorem keepsStop_onSensorHealth (sensorName : String) (status : UInt8)
    (now nowRecovered : UInt64) :
    KeepsStop n (n.onSensorHealth sensorName status now nowRecovered) := by
  obtain ⟨_, _, _, hmachine, heq⟩ := n.onSensorHealth_frame sensorName status now nowRecovered
  rw [heq]
  rcases hmachine with rfl | ⟨-, rfl⟩ | ⟨-, rfl⟩
  · exact .of_eq rfl id
  · exact .of_eq (by simp) id
  · exact .of_eq (by simp) id

variable [Add α] [Sub α] [Div α] [NatCast α]

theorem keepsStop_timerTick (now nowLocalization nowHealth : UInt64)
    (order : List String) :
    KeepsStop n (n.timerTick p now nowLocalization nowHealth order).1 := by
  have hchecked : KeepsStop n (n.checked p now nowLocalization nowHealth order) :=
    (keepsStop_checkLocalizationStaleness p n nowLocalization).trans <|
      (keepsStop_checkSensorHealth p _ nowHealth).trans <|
        keepsStop_checkSensorRecoveryTimeouts p _ now order
  have hlimit : KeepsStop (n.checked p now nowLocalization nowHealth order)
      ((n.checked p now nowLocalization nowHealth order).updateSpeedLimit now) :=
    .of_eq rfl id
  rw [timerTick_eq]
  exact (hchecked.trans hlimit).trans (keepsStop_observeClockSample _ now)

/-- Every callback but `on_clear_fault` keeps the stop. -/
theorem keepsStop_next {e : Event} (he : e ≠ .clearFault) :
    KeepsStop n ((component p).next n e) := by
  cases e with
  | envelope zone => exact keepsStop_onEnvelope p n zone
  | odom sec nanosec => exact .of_eq rfl id
  | sensorHealth sensorName status now nowRecovered =>
      exact keepsStop_onSensorHealth n sensorName status now nowRecovered
  | clearFault => exact absurd rfl he
  | timerTick now nowLocalization nowHealth order =>
      exact keepsStop_timerTick p n now nowLocalization nowHealth order

end Callbacks

/-! ## Clearing the fault -/

section Clearing

variable {α : Type*}

/-- A fault that is latched is cleared, the request is withdrawn with it, and the
machine is idle. -/
theorem onClearFault_of_latched (n : SafetySupervisorNode α)
    (h : n.machine.latchedFault = true) :
    n.onClearFault.2 = .response true "Fault cleared successfully" ∧
      n.onClearFault.1.machine.mode = .idle ∧
      n.onClearFault.1.machine.latchedFault = false ∧
      n.onClearFault.1.safeStopRequested = false := by
  have hok : n.machine.clearFault.2.isOk = true := by
    simp [ModeStateMachine.clearFault, h, ModeStateMachine.record, Result.isOk,
      Result.ok]
  have hmode : n.machine.clearFault.1.mode = .idle := by
    rw [ModeStateMachine.clearFault_mode, if_pos h]
  unfold onClearFault
  simp [hok, hmode]

/-- Without a latched fault the service refuses and changes nothing but the log
of the calls on the machine. -/
theorem onClearFault_of_not_latched (n : SafetySupervisorNode α)
    (h : n.machine.latchedFault = false) :
    n.onClearFault = ({ n with machine := n.machine.record .clearFault },
      .response false "no fault latched") := by
  simp [onClearFault, ModeStateMachine.clearFault, h, ModeStateMachine.record,
    Result.isOk, Result.invalidState]

end Clearing

/-! ## Every run -/

section Runs

variable {α : Type*} [Zero α] [Add α] [Sub α] [Mul α] [Div α] [OfScientific α]
  [NatCast α] [LE α] (p : Params α)

/-- The step is a call of `on_clear_fault` that reports success. -/
def ClearsFault (n : SafetySupervisorNode α) (e : Event) : Prop :=
  e = .clearFault ∧ ∃ message, (component p).output n e = .response true message

variable {p} in
theorem clearsFault_iff {n : SafetySupervisorNode α} :
    ClearsFault p n .clearFault ↔ n.machine.latchedFault = true := by
  change (_ ∧ ∃ message, n.onClearFault.2 = _) ↔ _
  cases h : n.machine.latchedFault with
  | true => simp [(onClearFault_of_latched n h).1]
  | false => simp [onClearFault_of_not_latched n h]

theorem safeStopHeld_preserved : (component p).Preserved SafeStopHeld := by
  intro n e h
  by_cases he : e = .clearFault
  · subst he
    refine ⟨settled_preserved p n .clearFault h.settled, ?_⟩
    change n.onClearFault.1.safeStopRequested = true → n.onClearFault.1.machine.mode = _
    cases hl : n.machine.latchedFault with
    | true => simp [onClearFault_of_latched n hl]
    | false =>
        rw [onClearFault_of_not_latched n hl]
        exact h.requested
  · exact h.keepsStop (keepsStop_next p n he) (settled_preserved p n e h.settled)

/-- In every run, at the start and after every callback, the fault latch is set
exactly in the safe stop and a safe stop is requested only there; the safe stop
is left only by a call of `on_clear_fault` that succeeds, and every such call
leaves an idle machine with the latch and the request cleared. -/
theorem safeStop_left_only_by_clearFault (es : List Event) :
    SafeStopHeld (initial p) ∧
      (component p).Along
        (fun n e => SafeStopHeld ((component p).next n e) ∧
          (n.machine.mode = .safeStop →
            ((component p).next n e).machine.mode ≠ .safeStop → ClearsFault p n e) ∧
          (ClearsFault p n e →
            ((component p).next n e).machine.mode = .idle ∧
              ((component p).next n e).machine.latchedFault = false ∧
              ((component p).next n e).safeStopRequested = false))
        (initial p) es := by
  refine ⟨safeStopHeld_initial p, ?_⟩
  refine (safeStopHeld_preserved p).along (fun n e h => ?_) (safeStopHeld_initial p) es
  refine ⟨safeStopHeld_preserved p n e h, ?_, ?_⟩
  · intro hmode hleft
    by_cases he : e = .clearFault
    · subst he
      exact clearsFault_iff.2 (h.settled.2 hmode)
    · have hlatched := (keepsStop_next p n he).latched (h.settled.2 hmode)
      exact absurd ((settled_preserved p n e h.settled).1 hlatched) hleft
  · rintro ⟨rfl, hclear⟩
    exact (onClearFault_of_latched n (clearsFault_iff.1 ⟨rfl, hclear⟩)).2

end Runs

end SafetySupervisorNode

end SafetyCore
