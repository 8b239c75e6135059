import Mathlib.Algebra.Order.Ring.Rat
import SafetyCore.Control.SafetyPid.Limits

/-!
# A rejected configuration

`applyConfig` installs the configuration and resets the controller before it looks
at the limits, so that a rejected one acts like an accepted one. Later calls behave as if
it had not been made exactly where there is nothing to reset and the rejected
configuration acts like the one before: the same limit of the speed, the same timeout
and control period, and a limit of the acceleration that is the same or cannot be
noticed below the limit of the speed.
-/

namespace SafetyCore

open Arithmetic Transition

namespace SafetyPidController

section Calls

variable {K : Type*} [Field K] [LinearOrder K] (c : SafetyPidController K)
  (cfg : SystemConfig K)

/-- The calls on a controller, `applyConfig` included. -/
inductive Operation (α : Type*) [OfScientific α]
  | applyConfig (cfg : SystemConfig α) (now : ℤ)
  | call (e : Call α)

/-- The controller driven by all its calls. -/
def service : Component (SafetyPidController K) (Operation K) (Result ⊕ Option K) where
  next c
    | .applyConfig cfg now => (c.applyConfig cfg now).1
    | .call e => callComponent.next c e
  output c
    | .applyConfig cfg now => .inl (c.applyConfig cfg now).2
    | .call e => .inr (callComponent.output c e)

/-- The controller under another configuration. -/
def installed : SafetyPidController K := { c with config := some cfg }

/-- The shortest time step. A call counts the time since the last one from 1001 ns on, and
the control period below. -/
def shortestDt : K := min c.configuredDt (seconds 1001)

/-- Later calls return what they return without the call of `applyConfig`, and until the
next one nothing beyond the limit of the speed before it. -/
def NoEffect (now : ℤ) : Prop :=
  service.Indistinguishable c (c.applyConfig cfg now).1 ∧
    ∀ m, c.speedLimit = some m → ∀ es v,
      some v ∈ callComponent.outputs (c.applyConfig cfg now).1 es → |v| ≤ m

/-- There is nothing to reset, and the configuration acts like the one before. -/
structure Unaffected : Prop where
  first : c.firstUpdate = true
  integral : c.integral = 0
  speed : (c.installed cfg).speedLimit = c.speedLimit
  guard : (c.installed cfg).guardTimeout = c.guardTimeout
  period : (c.installed cfg).configuredDt = c.configuredDt
  accel :
    (c.installed cfg).accelLimit = c.accelLimit ∧
        (c.accelLimit = none ∨ c.lastOutput = 0) ∨
      (c.installed cfg).accelLimit = none ∧
        ∃ m a, c.speedLimit = some m ∧ c.accelLimit = some a ∧
          m + |c.lastOutput| ≤ a * c.configuredDt ∧ m + m ≤ a * c.shortestDt

/-- The limit of the acceleration never acts, now or later. -/
def IdleAccel : Prop :=
  ∃ m a, c.speedLimit = some m ∧ c.accelLimit = some a ∧ m + m ≤ a * c.shortestDt ∧
    ∀ now, m + |c.lastOutput| ≤ a * c.stepDt now

/-- The two controllers act the same, now and later. -/
structure Agree (c t : SafetyPidController K) : Prop where
  gains : t.gains = c.gains
  integral : t.integral = c.integral
  stamp : t.lastLocalizationUpdate = c.lastLocalizationUpdate
  first : t.firstUpdate = c.firstUpdate
  later : c.firstUpdate = false → t.prevError = c.prevError ∧ t.lastUpdate = c.lastUpdate
  speed : t.speedLimit = c.speedLimit
  guard : t.guardTimeout = c.guardTimeout
  period : t.configuredDt = c.configuredDt
  accel :
    t.accelLimit = c.accelLimit ∧ (c.accelLimit = none ∨ t.lastOutput = c.lastOutput) ∨
      t.accelLimit = none ∧ c.IdleAccel

end Calls

section Agreement

variable {K : Type*} [Field K] [LinearOrder K] {c t : SafetyPidController K}

theorem Agree.refl (c : SafetyPidController K) : Agree c c where
  gains := rfl
  integral := rfl
  stamp := rfl
  first := rfl
  later _ := ⟨rfl, rfl⟩
  speed := rfl
  guard := rfl
  period := rfl
  accel := .inl ⟨rfl, .inr rfl⟩

theorem Agree.localizationValid (h : Agree c t) (stamp : ℤ) :
    t.localizationValid stamp = c.localizationValid stamp := by
  rw [localizationValid_eq, localizationValid_eq, h.guard, h.stamp]

theorem Agree.stepDt (h : Agree c t) (now : ℤ) : t.stepDt now = c.stepDt now := by
  cases hfirst : c.firstUpdate with
  | true =>
      rw [stepDt_of_first hfirst, stepDt_of_first (h.first.trans hfirst), h.period]
  | false =>
      rw [stepDt_of_later hfirst, stepDt_of_later (h.first.trans hfirst), h.period,
        (h.later hfirst).2]

theorem Agree.accumulated (h : Agree c t) (error dt : K) :
    t.accumulated error dt = c.accumulated error dt := by
  rw [SafetyPidController.accumulated, SafetyPidController.accumulated, h.gains,
    h.integral]

theorem Agree.pidSum (h : Agree c t) (error dt : K) :
    t.pidSum error dt = c.pidSum error dt := by
  have hderivative : t.derivative error dt = c.derivative error dt := by
    rw [derivative, derivative, h.first]
    cases hfirst : c.firstUpdate with
    | true => rfl
    | false => rw [(h.later hfirst).1]
  rw [SafetyPidController.pidSum, SafetyPidController.pidSum, h.accumulated, hderivative,
    h.gains]

/-- A rejected configuration limits the speed or the acceleration no longer. -/
theorem limit_eq_none_of_rejected {cfg : SystemConfig K} {now : ℤ}
    (h : (c.applyConfig cfg now).2 ≠ .ok) :
    (c.installed cfg).speedLimit = none ∨ (c.installed cfg).accelLimit = none := by
  unfold applyConfig at h
  dsimp only at h
  split at h
  next hle =>
    rcases hle with hle | hle
    · exact .inl (if_pos hle)
    · exact .inr (if_pos hle)
  next => exact absurd rfl h

/-- Where nothing changes for the controller, it agrees with the one that is left by the
rejected configuration. -/
theorem Unaffected.agree {cfg : SystemConfig K} (h : Unaffected c cfg) (now : ℤ) :
    Agree c (c.applyConfig cfg now).1 := by
  rw [applyConfig_fst]
  refine ⟨rfl, h.integral.symm, rfl, h.first.symm, ?_, h.speed, h.guard, h.period, ?_⟩
  · intro hlater
    rw [h.first] at hlater
    cases hlater
  · obtain ⟨haccel, hlast⟩ | ⟨haccel, m, a, hm, ha, hstep, hshort⟩ := h.accel
    · exact .inl ⟨haccel, hlast.imp id Eq.symm⟩
    · refine .inr ⟨haccel, m, a, hm, ha, hshort, fun now => ?_⟩
      rw [stepDt_of_first h.first]
      exact hstep

variable [IsStrictOrderedRing K]

theorem shortestDt_le_stepDt (c : SafetyPidController K) (now : ℤ) :
    c.shortestDt ≤ c.stepDt now := by
  cases hfirst : c.firstUpdate with
  | true =>
      rw [stepDt_of_first hfirst]
      exact min_le_left _ _
  | false =>
      rw [stepDt_of_later hfirst]
      split
      next h =>
        -- More than a thousand nanoseconds are at least 1001.
        refine (min_le_right _ _).trans ?_
        unfold seconds at h ⊢
        have h1000 : ((1000 : ℤ) : K) < ((now - c.lastUpdate : ℤ) : K) := by
          rw [lt_div_iff₀ (by norm_num)] at h
          refine lt_of_eq_of_lt ?_ h
          norm_num
        have h1001 : (1001 : ℤ) ≤ now - c.lastUpdate := Int.cast_lt.1 h1000
        have hcast : ((1001 : ℤ) : K) ≤ ((now - c.lastUpdate : ℤ) : K) :=
          Int.cast_le.2 h1001
        exact div_le_div_of_nonneg_right hcast (by norm_num)
      next => exact min_le_left _ _

/-- Where the limit of the acceleration is idle, it lets through what the limit of the
speed does. -/
theorem IdleAccel.clampAccel (h : c.IdleAccel) (now : ℤ) (value : K) :
    c.clampAccel (c.clampSpeed value) (c.stepDt now) = c.clampSpeed value := by
  obtain ⟨m, a, hm, ha, -, hstep⟩ := h
  have hstep := hstep now
  have hlast := abs_le.1 (le_refl |c.lastOutput|)
  have hm0 := speedLimit_pos hm
  rw [clampAccel_of_limit ha (c.stepDt_pos now), clampSpeed_of_limit hm value]
  have hlo : -m ≤ max (-m) (min value m) := le_max_left _ _
  have hhi : max (-m) (min value m) ≤ m := max_le (by linarith) (min_le_right _ _)
  generalize max (-m) (min value m) = d at hlo hhi ⊢
  rw [min_eq_left (by linarith), max_eq_right (by linarith), clampSpeed_of_limit hm,
    min_eq_left hhi, max_eq_right hlo]

theorem Agree.clampSpeed (h : Agree c t) (value : K) :
    t.clampSpeed value = c.clampSpeed value := by
  cases hc : c.speedLimit with
  | none => rw [clampSpeed_of_none hc, clampSpeed_of_none (h.speed.trans hc)]
  | some m => rw [clampSpeed_of_limit hc, clampSpeed_of_limit (h.speed.trans hc)]

/-- What the limit of the speed lets through is limited in the same way. -/
theorem Agree.clampAccel (h : Agree c t) (now : ℤ) (value : K) :
    t.clampAccel (c.clampSpeed value) (c.stepDt now) =
      c.clampAccel (c.clampSpeed value) (c.stepDt now) := by
  obtain ⟨haccel, hlast⟩ | ⟨haccel, hidle⟩ := h.accel
  · cases hc : c.accelLimit with
    | none => rw [clampAccel_of_none hc, clampAccel_of_none (haccel.trans hc)]
    | some a =>
        have hlast : t.lastOutput = c.lastOutput := hlast.resolve_left (by simp [hc])
        rw [clampAccel_of_limit hc (c.stepDt_pos now),
          clampAccel_of_limit (haccel.trans hc) (c.stepDt_pos now), hlast, h.clampSpeed]
  · rw [clampAccel_of_none haccel, hidle.clampAccel]

/-- Controllers that remember the same of their calls. -/
theorem Agree.overwrite (h : Agree c t) {c' t' : SafetyPidController K}
    (hc : c'.config = c.config) (ht : t' = { c' with config := t.config })
    (hout : ∀ m, c.speedLimit = some m → |c'.lastOutput| ≤ m) : Agree c' t' := by
  have hspeed : c'.speedLimit = c.speedLimit := by rw [speedLimit, speedLimit, hc]
  have haccel : c'.accelLimit = c.accelLimit := by rw [accelLimit, accelLimit, hc]
  have hguard : c'.guardTimeout = c.guardTimeout := by rw [guardTimeout, guardTimeout, hc]
  have hperiod : c'.configuredDt = c.configuredDt := by rw [configuredDt, configuredDt, hc]
  subst ht
  refine ⟨rfl, rfl, rfl, rfl, fun _ => ⟨rfl, rfl⟩, h.speed.trans hspeed.symm,
    h.guard.trans hguard.symm, h.period.trans hperiod.symm, ?_⟩
  obtain ⟨hagree, -⟩ | ⟨hagree, m, a, hm, ha, hshort, -⟩ := h.accel
  · exact .inl ⟨hagree.trans haccel.symm, .inr rfl⟩
  · have hshort : m + m ≤ a * c'.shortestDt := by rwa [shortestDt, hperiod]
    refine .inr ⟨hagree, m, a, hspeed.trans hm, haccel.trans ha, hshort, fun now => ?_⟩
    have hsum : m + |c'.lastOutput| ≤ a * c'.shortestDt :=
      (add_le_add le_rfl (hout m hm)).trans hshort
    exact hsum.trans
      (mul_le_mul_of_nonneg_left (shortestDt_le_stepDt c' now) (accelLimit_pos ha).le)

/-! ## The values within the limit of the speed -/

/-- Until the next configuration everything that a run puts out is within the limit. -/
theorem run_within {m : K} (hm : c.speedLimit = some m) (es : List (Call K)) :
    ∀ v, some v ∈ callComponent.outputs c es → |v| ≤ m := by
  have hkept : callComponent.Preserved fun c : SafetyPidController K =>
      c.speedLimit = some m := by
    intro c e hm
    rw [← hm, speedLimit, speedLimit, callComponent_config]
  refine Component.Along.outputs (P := fun c _ => c.speedLimit = some m)
    (fun c e _ h => hkept c e h) ?_ hm (hkept.along (fun _ _ h => h) hm es)
  intro c e hm _ v hv
  cases e with
  | plain e =>
      cases e with
      | setGains gains => cases hv
      | reset now => cases hv
      | markLocalizationUpdate stamp => cases hv
      | compute now nowReset setpoint measurement =>
          cases hv
          exact compute_abs_le hm ..
  | computeFeedforward now nowReset setpoint measurement ffVelocity ffAcceleration =>
      cases hv
      exact computeFeedforward_abs_le hm ..

/-! ## Later calls -/

theorem Agree.compute (h : Agree c t) (now nowReset : ℤ) (setpoint measurement : K) :
    t.compute now nowReset setpoint measurement =
      ({ (c.compute now nowReset setpoint measurement).1 with config := t.config },
        (c.compute now nowReset setpoint measurement).2) := by
  cases hvalid : c.localizationValid now with
  | false =>
      rw [compute_of_stale nowReset setpoint measurement hvalid,
        compute_of_stale nowReset setpoint measurement ((h.localizationValid now).trans hvalid)]
      rw [reset, reset, h.gains]
  | true =>
      rw [compute_of_valid c nowReset setpoint measurement hvalid,
        compute_of_valid t nowReset setpoint measurement
          ((h.localizationValid now).trans hvalid)]
      dsimp only
      rw [h.stepDt, h.pidSum, h.clampSpeed, h.clampAccel, h.accumulated, h.gains, h.stamp]

theorem Agree.computeFeedforward (h : Agree c t) (now nowReset : ℤ)
    (setpoint measurement ffVelocity ffAcceleration : K) :
    t.computeFeedforward now nowReset setpoint measurement ffVelocity ffAcceleration =
      ({ (c.computeFeedforward now nowReset setpoint measurement ffVelocity
            ffAcceleration).1 with config := t.config },
        (c.computeFeedforward now nowReset setpoint measurement ffVelocity
          ffAcceleration).2) := by
  rw [computeFeedforward_eq, computeFeedforward_eq, h.compute]
  dsimp only
  rw [h.clampSpeed, h.period]

/-- Every call answers the same and leaves the controllers in agreement. -/
theorem Agree.next (h : Agree c t) (e : Operation K) :
    service.output t e = service.output c e ∧
      Agree (service.next c e) (service.next t e) := by
  cases e with
  | applyConfig cfg now =>
      have hsame : service.next t (.applyConfig cfg now) =
          service.next c (.applyConfig cfg now) := by
        dsimp only [service]
        rw [applyConfig_fst, applyConfig_fst, reset, reset, h.gains, h.stamp]
      refine ⟨?_, hsame ▸ .refl _⟩
      dsimp only [service, applyConfig]
      split <;> rfl
  | call e =>
      cases e with
      | plain e =>
          cases e with
          | setGains gains => exact ⟨rfl, { h with gains := rfl }⟩
          | reset now =>
              refine ⟨rfl, h.overwrite rfl ?_ fun m hm => ?_⟩
              · dsimp only [service, callComponent, component]
                rw [reset, reset, h.gains, h.stamp]
              · exact abs_zero.trans_le (speedLimit_pos hm).le
          | markLocalizationUpdate stamp => exact ⟨rfl, { h with stamp := rfl }⟩
          | compute now nowReset setpoint measurement =>
              dsimp only [service, callComponent, component]
              rw [h.compute]
              refine ⟨rfl, h.overwrite (compute_config ..) rfl fun m hm => ?_⟩
              rw [compute_lastOutput]
              exact compute_abs_le hm ..
      | computeFeedforward now nowReset setpoint measurement ffVelocity ffAcceleration =>
          dsimp only [service, callComponent]
          rw [h.computeFeedforward]
          refine ⟨rfl, h.overwrite (computeFeedforward_config ..) rfl fun m hm => ?_⟩
          rw [computeFeedforward_lastOutput]
          exact computeFeedforward_abs_le hm ..

theorem Agree.indistinguishable (h : Agree c t) : service.Indistinguishable c t :=
  Component.indistinguishable_of_related (R := Agree) (fun _ _ e h => (h.next e).1.symm)
    (fun _ _ e h => (h.next e).2) h

theorem Unaffected.noEffect {cfg : SystemConfig K} (h : Unaffected c cfg) (now : ℤ) :
    NoEffect c cfg now := by
  have hagree := h.agree now
  exact ⟨hagree.indistinguishable, fun m hm es => run_within (hagree.speed.trans hm) es⟩

end Agreement

end SafetyPidController

end SafetyCore
