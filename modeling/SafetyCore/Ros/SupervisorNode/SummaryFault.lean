import SafetyCore.Ros.SupervisorNode.Tick

/-!
# The summary in the supervisor

The supervisor keeps the sensor summary that it has received last until the next one, whatever
else it does. A tick at which a faulty summary is still fresh leaves a latched fault.
-/

namespace SafetyCore

open Transition

namespace SafetySupervisorNode

variable {α : Type*}

/-- The summary that was received last, with the clock reading of its callback. -/
def SummaryIs (status : UInt8) (t : Option UInt64) (n : SafetySupervisorNode α) : Prop :=
  n.recoveryMgr.worstSensorStatus = status ∧ n.recoveryMgr.lastSensorHealthTimeNs = t

def Event.IsSummary : Event → Prop
  | .sensorHealth sensorName _ _ _ => sensorName = "all"
  | _ => False

end SafetySupervisorNode

namespace SensorRecoveryManager

/-- A message of one sensor leaves the summary alone. -/
theorem processHealthMsg_summary (r : SensorRecoveryManager) (name : String) (status : UInt8)
    (now : UInt64) :
    (r.processHealthMsg name status now).1.worstSensorStatus = r.worstSensorStatus ∧
      (r.processHealthMsg name status now).1.lastSensorHealthTimeNs =
        r.lastSensorHealthTimeNs := by
  unfold processHealthMsg
  split
  · split <;> exact ⟨rfl, rfl⟩
  · split_ifs <;> exact ⟨rfl, rfl⟩

theorem checkTimeouts_summary (r : SensorRecoveryManager) (now timeout : UInt64)
    (order : List String) :
    (r.checkTimeouts now timeout order).1.worstSensorStatus = r.worstSensorStatus ∧
      (r.checkTimeouts now timeout order).1.lastSensorHealthTimeNs =
        r.lastSensorHealthTimeNs := by
  unfold checkTimeouts
  split
  · exact ⟨rfl, rfl⟩
  · split <;> exact ⟨rfl, rfl⟩

end SensorRecoveryManager

namespace SafetySupervisorNode

section Summary

variable {α : Type*} [Zero α] [Add α] [Sub α] [Mul α] [Div α] [OfScientific α] [NatCast α]
  [LE α] (p : Params α) {n : SafetySupervisorNode α} {status : UInt8} {t : Option UInt64}

omit [Zero α] [Add α] [Sub α] [Div α] [NatCast α] [LE α] in
theorem summaryIs_onSensorHealth {sensorName : String} (hname : sensorName ≠ "all")
    (status' : UInt8) (now nowRecovered : UInt64) (h : SummaryIs status t n) :
    SummaryIs status t (n.onSensorHealth sensorName status' now nowRecovered) := by
  have hprocess := n.recoveryMgr.processHealthMsg_summary sensorName status' now
  have hkeep : SummaryIs status t
      { n with recoveryMgr := (n.recoveryMgr.processHealthMsg sensorName status' now).1 } :=
    ⟨hprocess.1.trans h.1, hprocess.2.trans h.2⟩
  unfold onSensorHealth
  rw [if_neg hname]
  dsimp only
  split
  · obtain ⟨machine, hframe⟩ := handleSensorDegraded_frame
      { n with recoveryMgr := (n.recoveryMgr.processHealthMsg sensorName status' now).1 }
    rw [hframe]
    exact hkeep
  · rcases handleSensorRecovered_frame
        { n with recoveryMgr := (n.recoveryMgr.processHealthMsg sensorName status' now).1 }
        nowRecovered with ⟨-, heq⟩ | ⟨-, machine, heq⟩
    · rw [heq]
      exact hkeep
    · rw [heq]
      exact hkeep
  · exact hkeep

theorem summaryIs_timerTick (now nowLocalization nowHealth : UInt64) (order : List String)
    (h : SummaryIs status t n) :
    SummaryIs status t (n.timerTick p now nowLocalization nowHealth order).1 := by
  have hloc : SummaryIs status t (n.checkLocalizationStaleness p nowLocalization) := by
    rw [SummaryIs, checkLocalizationStaleness_recoveryMgr]
    exact h
  have hhealth : SummaryIs status t
      ((n.checkLocalizationStaleness p nowLocalization).checkSensorHealth p nowHealth) := by
    obtain ⟨_, _, _, heq⟩ :=
      checkSensorHealth_frame p (n.checkLocalizationStaleness p nowLocalization) nowHealth
    rw [heq]
    exact hloc
  have hchecked : SummaryIs status t (n.checked p now nowLocalization nowHealth order) := by
    rw [checked]
    generalize (n.checkLocalizationStaleness p nowLocalization).checkSensorHealth p
      nowHealth = m at hhealth ⊢
    have htimeouts := m.recoveryMgr.checkTimeouts_summary now p.recoveryTimeoutNs order
    by_cases hstop : m.machine.mode = .safeStop
    · rwa [checkSensorRecoveryTimeouts_of_safeStop p m now order hstop]
    · by_cases hexpired : RecoveryTimeout p m now order
      · rw [checkSensorRecoveryTimeouts_of_expired p m now order hstop hexpired]
        exact ⟨htimeouts.1.trans hhealth.1, htimeouts.2.trans hhealth.2⟩
      · rw [checkSensorRecoveryTimeouts_of_not_expired p m now order hstop hexpired]
        exact ⟨htimeouts.1.trans hhealth.1, htimeouts.2.trans hhealth.2⟩
  rw [timerTick_eq]
  exact hchecked

/-- Only a summary replaces the summary. -/
theorem summaryIs_next {e : Event} (he : ¬ e.IsSummary) (h : SummaryIs status t n) :
    SummaryIs status t ((component p).next n e) := by
  cases e with
  | envelope zone =>
      obtain ⟨_, _, heq⟩ := onEnvelope_frame p n zone
      change SummaryIs _ _ (n.onEnvelope p zone)
      rw [heq]
      exact h
  | odom sec nanosec => exact h
  | sensorHealth sensorName status' now nowRecovered =>
      exact summaryIs_onSensorHealth he status' now nowRecovered h
  | clearFault =>
      obtain ⟨_, heq⟩ := n.onClearFault_frame
      change SummaryIs _ _ n.onClearFault.1
      rw [heq]
      exact h
  | timerTick now nowLocalization nowHealth order =>
      exact summaryIs_timerTick p now nowLocalization nowHealth order h

/-- A tick that finds the summary faulty, and fresh, leaves a latched fault. -/
theorem latchedFault_of_faultSummary {t : UInt64} (hsettled : n.machine.Settled)
    (h : SummaryIs SensorHealth.fault (some t) n) (now nowLocalization : UInt64)
    {nowHealth : UInt64} (order : List String)
    (hfresh : TimeUtils.isStale t nowHealth p.sensorTimeoutNs = false) :
    (n.timerTick p now nowLocalization nowHealth order).1.machine.latchedFault = true :=
  (timerTick_latchedFault p now nowLocalization nowHealth order hsettled).2
    (.inr (.inr (.inl ⟨⟨t, h.2, hfresh⟩, h.1⟩)))

omit [Add α] [Sub α] [Mul α] [Div α] [OfScientific α] [NatCast α] in
theorem latchedFault_of_emergency (n : SafetySupervisorNode α) :
    (n.onEnvelope p SafetyZone.emergency.toRaw).machine.latchedFault = true := by
  have hzone : SafetyZone.ofRaw SafetyZone.emergency.toRaw = .emergency := by decide
  simp [onEnvelope, hzone, handleZoneTransition]

end Summary

end SafetySupervisorNode

end SafetyCore
