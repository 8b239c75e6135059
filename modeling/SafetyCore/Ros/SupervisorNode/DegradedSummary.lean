import SafetyCore.Ros.SupervisorNode.Tick

/-!
# Ticks under a degraded summary

`check_sensor_health` demotes a moving robot to `Degraded` only if the degraded
flag of the recovery manager is not set. Sensor messages set that flag in every
mode, so that it can be set while the machine is in `Moving`, and the demotion
is then left out. It is also left out when the summary is stamped after the clock
reading of the check, whose age modulo `2 ^ 64` passes for stale.
`degradedSummary_iff` states exactly which ticks leave the robot in `Moving`.
-/

namespace SafetyCore

open Transition

namespace SafetySupervisorNode

section Definitions

variable {α : Type*} [Zero α] [LE α] (p : Params α)

/-- The step is a tick at which the summary is degraded, and fresh by its true
age. -/
def SeesDegradedSummary (n : SafetySupervisorNode α) (e : Event) : Prop :=
  ∃ now nowLocalization nowHealth order lastHealth,
    e = .timerTick now nowLocalization nowHealth order ∧
      n.recoveryMgr.lastSensorHealthTimeNs = some lastHealth ∧
      n.recoveryMgr.worstSensorStatus = SensorHealth.degraded ∧
      (nowHealth.toNat : ℤ) - lastHealth.toNat ≤ p.sensorTimeoutNs.toNat

/-- The step is a tick that finds the machine in `Moving` and no reason to leave
it: the degraded flag is already set, or the check takes the summary for stale,
and no other check stops the robot. -/
def SkipsDemotion (n : SafetySupervisorNode α) (e : Event) : Prop :=
  ∃ now nowLocalization nowHealth order,
    e = .timerTick now nowLocalization nowHealth order ∧
      n.machine.mode = .moving ∧
      (n.recoveryMgr.inDegradedMode = true ∨ ¬ SummaryFresh p n nowHealth) ∧
      ¬ LocalizationStale p n nowLocalization ∧ ¬ RecoveryTimeout p n now order ∧
      ¬ ClockRegression n now

end Definitions

section Runs

variable {α : Type*} [Zero α] [Add α] [Sub α] [Mul α] [Div α] [OfScientific α]
  [NatCast α] [LE α] (p : Params α)

/-- In every run, the ticks that see a fresh degraded summary leave the robot in
another mode than `Moving` exactly when none of them skips the demotion. -/
theorem degradedSummary_iff (es : List Event) :
    (component p).Along
        (fun n e => SeesDegradedSummary p n e →
          ((component p).next n e).machine.mode ≠ .moving) (initial p) es ↔
      (component p).Along
        (fun n e => SeesDegradedSummary p n e → ¬ SkipsDemotion p n e)
        (initial p) es := by
  refine (settled_preserved p).along_congr (fun n e h => ?_) (settled_initial p) es
  refine imp_congr_right fun hsees => not_congr ?_
  obtain ⟨now, nowLocalization, nowHealth, order, lastHealth, rfl, -, hd, -⟩ := hsees
  change (n.timerTick p now nowLocalization nowHealth order).1.machine.mode = _ ↔ _
  rw [timerTick_moving_iff p now nowLocalization nowHealth order h hd]
  constructor
  · rintro ⟨hmoving, hloc, hflag, htimeout, hclock⟩
    refine ⟨now, nowLocalization, nowHealth, order, rfl, hmoving, ?_, hloc, htimeout,
      hclock⟩
    by_cases hfresh : SummaryFresh p n nowHealth
    · exact .inl (hflag hfresh)
    · exact .inr hfresh
  · rintro ⟨_, _, _, _, heq, hmoving, hskip, hloc, htimeout, hclock⟩
    cases heq
    exact ⟨hmoving, hloc, fun hfresh => hskip.resolve_right (not_not_intro hfresh),
      htimeout, hclock⟩

end Runs

/-- A sensor degrades while the robot is idle. It starts to move, and a tick with
a fresh degraded summary lets it move on. -/
theorem degradedSummary_not_always :
    ¬ ∀ (p : Params ℚ) (es : List Event),
      (component p).Along
        (fun n e => SeesDegradedSummary p n e →
          ((component p).next n e).machine.mode ≠ .moving) (initial p) es := by
  intro h
  have hrun := h Params.default
    [.sensorHealth "lidar" SensorHealth.degraded 1 1, .envelope 0,
      .sensorHealth "all" SensorHealth.degraded 2 2, .timerTick 3 3 3 ["lidar"]]
  have hmode := hrun.2.2.2.1 ⟨3, 3, 3, ["lidar"], 2, rfl, by decide +kernel,
    by decide +kernel, by decide⟩
  exact absurd hmode (by decide +kernel)

end SafetySupervisorNode

end SafetyCore
