import SafetyCore.Control.SafetyPid.AntiWindup

/-!
# The rate of the output

A call changes the output by at most the acceleration limit times its step. The step is the
time since the last call if that is more than a microsecond, and the nominal period
otherwise. So the limit holds in real time from call to call unless calls come closer than
that, where each of them may use up a whole period.
-/

namespace SafetyCore

open Arithmetic Transition

namespace SafetyPidController

section Steps

variable {K : Type*} [Field K] [LinearOrder K]

/-- The nominal period of a configuration, in seconds. -/
def nominalPeriod (cfg : SystemConfig K) : K :=
  if 0 < (seconds cfg.timing.controlPeriod : K) then seconds cfg.timing.controlPeriod
  else kDefaultDtSeconds

/-- The step that a call at `t` takes after a call at `s`. -/
def stepAfter (period : K) (s t : ℤ) : K :=
  if 1e-6 < (seconds (t - s) : K) then seconds (t - s) else period

/-- The steps of the calls at the given times, after a call at `s`. -/
def stepsAfter (period : K) : ℤ → List ℤ → K
  | _, [] => 0
  | s, t :: ts => stepAfter period s t + stepsAfter period t ts

/-- The clock reading of a `compute`. -/
def clockReading : Event K → Option ℤ
  | .compute now _ _ _ => some now
  | _ => none

/-- Two calls more than a microsecond apart. -/
def Apart (K : Type*) [Field K] [LinearOrder K] (s t : ℤ) : Prop :=
  1e-6 < (seconds (t - s) : K)

theorem stepAfter_of_apart (period : K) {s t : ℤ} (h : Apart K s t) :
    stepAfter period s t = seconds (t - s) :=
  if_pos h

/-- Where all calls are more than a microsecond apart, the steps are the time that has
passed. -/
theorem stepsAfter_of_apart (period : K) {s t : ℤ} {ts : List ℤ}
    (h : (s :: (ts ++ [t])).IsChain (Apart K)) :
    stepsAfter period s (ts ++ [t]) = seconds (t - s) := by
  induction ts generalizing s with
  | nil =>
      rw [List.nil_append, stepsAfter, stepsAfter, add_zero,
        stepAfter_of_apart period (List.isChain_cons_cons.1 h).1]
  | cons u ts ih =>
      obtain ⟨hu, hrest⟩ := List.isChain_cons_cons.1 h
      have hsum : t - s = (u - s) + (t - u) := by omega
      rw [List.cons_append, stepsAfter, stepAfter_of_apart period hu, ih hrest, hsum, seconds,
        seconds, seconds, ← add_div, ← Int.cast_add]

end Steps

section Field

variable {K : Type*} [Field K] [LinearOrder K] {c : SafetyPidController K}
  {cfg : SystemConfig K}

/-- The call is a `compute` with a fresh localization, or changes neither the output nor its
time. -/
def Fresh (c : SafetyPidController K) : Event K → Prop
  | .compute now _ _ _ => c.localizationValid now = true
  | .reset _ => False
  | _ => True

instance (c : SafetyPidController K) : ∀ e : Event K, Decidable (c.Fresh e)
  | .compute now _ _ _ => inferInstanceAs (Decidable (c.localizationValid now = true))
  | .reset _ => inferInstanceAs (Decidable False)
  | .setGains _ | .markLocalizationUpdate _ => inferInstanceAs (Decidable True)

theorem configuredDt_eq_nominalPeriod (hcfg : c.config = some cfg) :
    c.configuredDt = nominalPeriod cfg := by
  unfold configuredDt
  rw [hcfg]
  rfl

/-- A controller whose last call was at `s`. -/
structure CalledAt (cfg : SystemConfig K) (s : ℤ) (c : SafetyPidController K) : Prop where
  config : c.config = some cfg
  lastOutput : |c.lastOutput| ≤ cfg.envelope.maxSpeedMps
  later : c.firstUpdate = false
  lastUpdate : c.lastUpdate = s

theorem CalledAt.stepDt {s : ℤ} (h : CalledAt cfg s c) (now : ℤ) :
    c.stepDt now = stepAfter (nominalPeriod cfg) s now := by
  rw [stepDt_of_later h.later, h.lastUpdate, configuredDt_eq_nominalPeriod h.config]
  rfl

variable [IsStrictOrderedRing K]

/-- After a fresh `compute`. -/
theorem calledAt_compute (hm : c.speedLimit = some cfg.envelope.maxSpeedMps)
    (hcfg : c.config = some cfg) {now : ℤ} (hvalid : c.localizationValid now = true)
    (nowReset : ℤ) (setpoint measurement : K) :
    CalledAt cfg now (c.compute now nowReset setpoint measurement).1 where
  config := (compute_config nowReset setpoint measurement).trans hcfg
  lastOutput := by
    rw [compute_lastOutput]
    exact compute_abs_le hm now nowReset setpoint measurement
  later := by rw [compute_of_valid c nowReset setpoint measurement hvalid]
  lastUpdate := by rw [compute_of_valid c nowReset setpoint measurement hvalid]

/-- Over a run the output changes by at most what the steps of its calls allow. -/
theorem CalledAt.abs_run_sub_le {c₀ : SafetyPidController K} {now₀ : ℤ}
    (hok : (c₀.applyConfig cfg now₀).2 = .ok) {s : ℤ} (h : CalledAt cfg s c)
    {es : List (Event K)} (hes : component.Along Fresh c es) :
    |(component.run c es).lastOutput - c.lastOutput| ≤
      cfg.envelope.maxAccelMps2 *
        stepsAfter (nominalPeriod cfg) s (es.filterMap clockReading) := by
  induction es generalizing c s with
  | nil => simp [stepsAfter]
  | cons e es ih =>
      cases e with
      | reset now => exact hes.1.elim
      | setGains gains =>
          have hnext : CalledAt cfg s (c.setGains gains) :=
            ⟨h.config, h.lastOutput, h.later, h.lastUpdate⟩
          exact ih hnext hes.2
      | markLocalizationUpdate stamp =>
          have hnext : CalledAt cfg s (c.markLocalizationUpdate stamp) :=
            ⟨h.config, h.lastOutput, h.later, h.lastUpdate⟩
          exact ih hnext hes.2
      | compute now nowReset setpoint measurement =>
          obtain ⟨hm, ha⟩ := limits_of_applyConfig_ok hok h.config
          have hvalid : c.localizationValid now = true := hes.1
          have hnext := calledAt_compute hm h.config hvalid nowReset setpoint measurement
          have hrest := ih hnext hes.2
          have hcall := compute_sub_lastOutput_le hm ha h.lastOutput hvalid nowReset setpoint
            measurement
          rw [h.stepDt, ← compute_lastOutput] at hcall
          have hsum := (abs_sub_le _ _ c.lastOutput).trans (add_le_add hrest hcall)
          rw [add_comm, ← mul_add] at hsum
          exact hsum

/-- For every accepted configuration, all gains and every run of calls with a fresh
localization and no reset: the outputs of two calls differ by at most the acceleration limit
times the steps of the calls after the first, up to the second. Where these calls all come
more than a microsecond after the one before, that is the time between the two. -/
theorem output_rate_limited (c : SafetyPidController K) (cfg : SystemConfig K) (now : ℤ)
    (pre mid : List (Event K)) (t t' nowReset nowReset' : ℤ)
    (setpoint measurement setpoint' measurement' : K)
    (hok : (c.applyConfig cfg now).2 = .ok)
    (hfresh : component.Along Fresh (c.applyConfig cfg now).1
      (pre ++ .compute t nowReset setpoint measurement ::
        (mid ++ [.compute t' nowReset' setpoint' measurement']))) :
    let s := component.run (c.applyConfig cfg now).1 pre
    let first := s.compute t nowReset setpoint measurement
    let second := (component.run first.1 mid).compute t' nowReset' setpoint' measurement'
    |second.2 - first.2| ≤ cfg.envelope.maxAccelMps2 *
        stepsAfter (nominalPeriod cfg) t (mid.filterMap clockReading ++ [t']) ∧
      ((t :: (mid.filterMap clockReading ++ [t'])).IsChain (Apart K) →
        |second.2 - first.2| ≤ cfg.envelope.maxAccelMps2 * seconds (t' - t)) := by
  intro s first second
  obtain ⟨hpre, hvalid, hrest⟩ := (component.along_append _ _ _ _).1 hfresh
  have hcfg : s.config = some cfg := by
    have hkeeps : component.Preserved
        fun c : SafetyPidController K => c.config = some cfg := by
      intro c e hc
      exact (callComponent_config c (.plain e)).trans hc
    refine hkeeps.run ?_ pre
    rw [applyConfig_fst]
    rfl
  obtain ⟨hm, -⟩ := limits_of_applyConfig_ok hok hcfg
  have hcalled := calledAt_compute hm hcfg hvalid nowReset setpoint measurement
  have hbound := hcalled.abs_run_sub_le hok hrest
  rw [Component.run_append, List.filterMap_append] at hbound
  have hsecond : second.1.lastOutput = second.2 := compute_lastOutput ..
  have hfirst : first.1.lastOutput = first.2 := compute_lastOutput ..
  have hrate : |second.2 - first.2| ≤ cfg.envelope.maxAccelMps2 *
      stepsAfter (nominalPeriod cfg) t (mid.filterMap clockReading ++ [t']) := by
    rw [← hsecond, ← hfirst]
    exact hbound
  refine ⟨hrate, fun hapart => ?_⟩
  rwa [stepsAfter_of_apart _ hapart] at hrate

end Field

/-- Two calls a tenth of a second apart. -/
theorem output_rate_limited_rat :
    let s := ((create 0 0 : SafetyPidController ℚ).applyConfig makeConfig 0).1.setGains
      { kp := 1 }
    |((s.compute 0 0 1 0).1.compute 100000000 0 1 0).2 - (s.compute 0 0 1 0).2| ≤
      (makeConfig : SystemConfig ℚ).envelope.maxAccelMps2 * seconds 100000000 := by
  have hfresh : component.Along Fresh ((create 0 0 : SafetyPidController ℚ).applyConfig
      makeConfig 0).1 ([.setGains { kp := 1 }] ++ .compute 0 0 1 0 ::
        ([] ++ [.compute 100000000 0 1 0])) :=
    by decide +kernel
  have hapart : ((0 : ℤ) :: ([] ++ [100000000])).IsChain (Apart ℚ) := by
    norm_num [Apart, seconds]
  have hok : ((create 0 0 : SafetyPidController ℚ).applyConfig makeConfig 0).2 = .ok := by
    decide +kernel
  have hrate := output_rate_limited (create 0 0 : SafetyPidController ℚ) makeConfig 0
    [.setGains { kp := 1 }] [] 0 100000000 0 0 1 0 1 0 hok hfresh
  exact hrate.2 hapart

/-- Two calls at one clock reading, with a jump of the output in between. -/
theorem output_rate_not_elapsed :
    ¬ ∀ (c : SafetyPidController ℚ) (cfg : SystemConfig ℚ) (now : ℤ)
      (pre mid : List (Event ℚ)) (t t' nowReset nowReset' : ℤ)
      (setpoint measurement setpoint' measurement' : ℚ),
      (c.applyConfig cfg now).2 = .ok →
      component.Along Fresh (c.applyConfig cfg now).1
        (pre ++ .compute t nowReset setpoint measurement ::
          (mid ++ [.compute t' nowReset' setpoint' measurement'])) →
      (now :: (pre.filterMap clockReading ++ t ::
        (mid.filterMap clockReading ++ [t']))).IsChain (· ≤ ·) →
      let s := component.run (c.applyConfig cfg now).1 pre
      let first := s.compute t nowReset setpoint measurement
      let second := (component.run first.1 mid).compute t' nowReset' setpoint' measurement'
      |second.2 - first.2| ≤ cfg.envelope.maxAccelMps2 * seconds (t' - t) := by
  intro h
  have hfresh : component.Along Fresh ((create 0 0 : SafetyPidController ℚ).applyConfig
      makeConfig 0).1 ([.setGains { kp := 1 }] ++ .compute 0 0 1 0 ::
        ([] ++ [.compute 0 0 1 0])) :=
    by decide +kernel
  have hcase := h (create 0 0) makeConfig 0 [.setGains { kp := 1 }] [] 0 0 0 0 1 0 1 0
    (by decide +kernel) hfresh (by decide)
  exact absurd hcase (by decide +kernel)

end SafetyPidController

end SafetyCore
