import Mathlib.Tactic.NormNum
import SafetyCore.Safety.Supervisor

/-!
# The doubled localization timeout

`observe_localization_age` doubles the timeout in 64 bits. From a timeout of `2 ^ 63`
nanoseconds on the product wraps round to at most the timeout itself, and every stale age
counts as critical.
-/

namespace SafetyCore

namespace SafetySupervisor

/-- The severity of an age when the timeout is doubled without bound. -/
def localizationSeverity (ageNs timeoutNs : ℕ) : MonitorSeverity :=
  if 0 < timeoutNs ∧ 2 * timeoutNs ≤ ageNs then .critical
  else if 0 < timeoutNs ∧ timeoutNs < ageNs then .degraded
  else .none

/-- The escalation with that severity. -/
def localizationEscalation (machine : Option ModeStateMachine)
    (localizationAgeNs localizationTimeoutNs : UInt64) : Option ModeStateMachine × Result :=
  processMonitorEvent machine
    { type := .localizationStale
      severity :=
        localizationSeverity localizationAgeNs.toNat localizationTimeoutNs.toNat
      code := kFaultCodeLocalizationLost
      detail := "localization age exceeded timeout" }

theorem escalateDegraded_snd_message (machine : Option ModeStateMachine)
    (event : MonitorEvent) :
    (escalateDegraded machine event).2 = .ok ∨
      (escalateDegraded machine event).2 = .fault "failed to request degraded mode" := by
  cases machine with
  | none => exact .inl rfl
  | some m =>
      simp only [escalateDegraded]
      split
      · exact .inr rfl
      · exact .inl rfl

/-- The two escalations never look the same to the caller. -/
theorem processMonitorEvent_ne (machine : Option ModeStateMachine)
    {event event' : MonitorEvent} (h : event.severity = .critical)
    (h' : event'.severity = .degraded) :
    processMonitorEvent machine event ≠ processMonitorEvent machine event' := by
  have hcritical : (escalateCritical machine event).2 =
      .fault "critical event without state machine" ∨
        (escalateCritical machine event).2 = .fault "fault latched" := by
    cases machine with
    | none => exact .inl rfl
    | some m => exact .inr rfl
  intro heq
  simp only [processMonitorEvent, h, h'] at heq
  rw [heq] at hcritical
  rcases escalateDegraded_snd_message machine event' with hd | hd <;>
    rw [hd] at hcritical <;> exact absurd hcritical (by decide)

/-- The 64-bit product is the product itself below `2 ^ 63`, and else at most the timeout. -/
theorem toNat_two_mul (timeout : UInt64) :
    (2 * timeout).toNat =
      if timeout.toNat < 2 ^ 63 then 2 * timeout.toNat else 2 * timeout.toNat - 2 ^ 64 := by
  have hlt := timeout.toNat_lt
  rw [UInt64.toNat_mul]
  have htwo : (2 : UInt64).toNat = 2 := rfl
  rw [htwo]
  split <;> omega

theorem observeLocalizationAge_of_stale (machine : Option ModeStateMachine)
    {age timeout : UInt64} (hpos : 0 < timeout.toNat) (hlt : timeout.toNat < age.toNat) :
    observeLocalizationAge machine age timeout =
      processMonitorEvent machine
        { type := .localizationStale
          severity :=
            if (2 * timeout).toNat ≤ age.toNat then .critical else .degraded
          code := kFaultCodeLocalizationLost
          detail := "localization age exceeded timeout" } := by
  have hzero : timeout ≠ 0 := by
    rintro rfl
    exact absurd hpos (by decide)
  have hle : ¬ age ≤ timeout := by
    rw [UInt64.le_iff_toNat_le]
    omega
  simp only [observeLocalizationAge, hzero, hle, ge_iff_le, UInt64.le_iff_toNat_le]
  rfl

/-- For every machine and all 64-bit values, the supervisor escalates by the unbounded
product if and only if the timeout is below `2 ^ 63` or the age is not beyond it. -/
theorem observeLocalizationAge_eq_iff (machine : Option ModeStateMachine)
    (age timeout : UInt64) :
    observeLocalizationAge machine age timeout =
        localizationEscalation machine age timeout ↔
      timeout.toNat < 2 ^ 63 ∨ age.toNat ≤ timeout.toNat := by
  have hage := age.toNat_lt
  by_cases hstale : 0 < timeout.toNat ∧ timeout.toNat < age.toNat
  · obtain ⟨hpos, hlt⟩ := hstale
    rw [observeLocalizationAge_of_stale machine hpos hlt, toNat_two_mul]
    by_cases hsmall : timeout.toNat < 2 ^ 63
    · -- The two products agree, so both sides take the same branch.
      simp only [hsmall, if_true, true_or, localizationEscalation,
        localizationSeverity, hpos, hlt, true_and]
    · have hwraps : 2 * timeout.toNat - 2 ^ 64 ≤ age.toNat := by omega
      have hdegraded : ¬ 2 * timeout.toNat ≤ age.toNat := by omega
      simp only [hsmall, if_false, hwraps, if_true, false_or, localizationEscalation,
        localizationSeverity, hpos, hlt, hdegraded, true_and, not_le.2 hlt, iff_false]
      exact processMonitorEvent_ne machine rfl rfl
  · have hright : timeout.toNat < 2 ^ 63 ∨ age.toNat ≤ timeout.toNat := by omega
    have hcritical : ¬ (0 < timeout.toNat ∧ 2 * timeout.toNat ≤ age.toNat) := by omega
    have hfresh : timeout = 0 ∨ age ≤ timeout := by
      rw [UInt64.le_iff_toNat_le, ← UInt64.toNat_inj]
      change timeout.toNat = 0 ∨ _
      omega
    have hobserved : observeLocalizationAge machine age timeout = (machine, .ok) := by
      simp [observeLocalizationAge, hfresh]
    simp only [hright, iff_true, hobserved, localizationEscalation, localizationSeverity,
      hcritical, hstale, if_false]
    rfl

/-- An age just above a timeout of `2 ^ 63` is less than twice as large, and is escalated as
critical. -/
theorem observeLocalizationAge_wraps :
    ¬ ∀ (machine : Option ModeStateMachine) (age timeout : UInt64),
      observeLocalizationAge machine age timeout =
        localizationEscalation machine age timeout := by
  intro h
  have hcase := h (some {}) 9223372036854775809 9223372036854775808
  exact absurd hcase (by decide +kernel)

end SafetySupervisor

end SafetyCore
