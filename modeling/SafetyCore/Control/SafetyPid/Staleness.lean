import Mathlib.Tactic.Linarith
import SafetyCore.Control.SafetyPid

/-!
# Outputs under a stale localization

The stale branch of `compute` puts the current time in the place of the stale
stamp. A second call within the timeout finds the guard satisfied and computes an
output, although no localization has been marked in between. The outputs stay
zero exactly in the runs in which a call that finds the localization stale is
followed, before the next mark, only by calls more than the timeout later.
-/

namespace SafetyCore

open Transition

namespace SafetyPidController

section Histories

variable {α : Type*} [OfScientific α]

/-- The stamp that a call marks. -/
def Event.stampOf : Event α → Option ℤ
  | .markLocalizationUpdate stamp => some stamp
  | _ => none

/-- The readings of the clock that a call makes, in order. -/
def Event.clockReadings : Event α → List ℤ
  | .reset now => [now]
  | .compute now nowReset _ _ => [now, nowReset]
  | _ => []

/-- The stamp of the last mark, or the time of the construction. -/
def latestStamp (constructed : ℤ) (es : List (Event α)) : ℤ :=
  (lastValue Event.stampOf es).getD constructed

/-- At the time `now` the last stamp is older than the timeout. -/
def StaleAt (timeout constructed : ℤ) (es : List (Event α)) (now : ℤ) : Prop :=
  latestStamp constructed es < now - timeout

/-- A call that finds the localization stale is followed, before the next mark,
only by calls more than the timeout later. -/
def Spaced (timeout constructed : ℤ) (es : List (Event α)) : Prop :=
  ∀ pre u uReset uSetpoint uMeasurement mid v vReset vSetpoint vMeasurement post,
    es = pre ++ .compute u uReset uSetpoint uMeasurement ::
      (mid ++ .compute v vReset vSetpoint vMeasurement :: post) →
    (∀ e ∈ mid, e.stampOf = none) → StaleAt timeout constructed pre u →
    timeout < v - u

variable {timeout constructed : ℤ}

instance (es : List (Event α)) (now : ℤ) :
    Decidable (StaleAt timeout constructed es now) :=
  inferInstanceAs (Decidable (_ < _))

theorem latestStamp_append {es mid : List (Event α)} (h : ∀ e ∈ mid, e.stampOf = none) :
    latestStamp constructed (es ++ mid) = latestStamp constructed es := by
  rw [latestStamp, latestStamp, lastValue_append, lastValue_eq_none h]
  rfl

/-- What the controller takes for the last stamp: the last stamp itself, or the
time of a call that found it stale and was not followed by a mark. -/
structure TracksStamp (cfg : SystemConfig α) (constructed : ℤ) (es : List (Event α))
    (c : SafetyPidController α) : Prop where
  config : c.config = some cfg
  stamp : c.lastLocalizationUpdate = latestStamp constructed es ∨
    ∃ pre u uReset setpoint measurement mid,
      es = pre ++ .compute u uReset setpoint measurement :: mid ∧
      (∀ e ∈ mid, e.stampOf = none) ∧
      StaleAt cfg.timing.localizationTimeout constructed pre u ∧
      c.lastLocalizationUpdate = u

variable {cfg : SystemConfig α} {c : SafetyPidController α} {es : List (Event α)}

/-- A call that marks nothing and leaves the stamp alone. -/
theorem TracksStamp.concat (h : TracksStamp cfg constructed es c) {e : Event α}
    (he : e.stampOf = none) {c' : SafetyPidController α} (hconfig : c'.config = c.config)
    (hstamp : c'.lastLocalizationUpdate = c.lastLocalizationUpdate) :
    TracksStamp cfg constructed (es ++ [e]) c' := by
  refine ⟨hconfig.trans h.config, ?_⟩
  rw [hstamp, latestStamp_append (by simpa using he)]
  refine h.stamp.imp id ?_
  rintro ⟨pre, u, uReset, setpoint, measurement, mid, rfl, hmid, hstale, hu⟩
  refine ⟨pre, u, uReset, setpoint, measurement, mid ++ [e], by simp, ?_, hstale, hu⟩
  intro f hf
  rcases List.mem_append.1 hf with hf | hf
  · exact hmid f hf
  · rw [List.mem_singleton.1 hf]
    exact he

/-- The guard never fails while the localization is fresh. -/
theorem TracksStamp.staleAt (h : TracksStamp cfg constructed es c)
    (hT : 0 < cfg.timing.localizationTimeout) {now : ℤ}
    (hguard : c.localizationValid now = false) :
    StaleAt cfg.timing.localizationTimeout constructed es now := by
  rw [localizationValid_eq_false_iff h.config hT] at hguard
  rcases h.stamp with hstamp | ⟨pre, u, uReset, setpoint, measurement, mid, rfl, hmid,
    hstale, hu⟩
  · unfold StaleAt
    omega
  · unfold StaleAt at hstale ⊢
    rw [latestStamp_append]
    · omega
    · simpa [Event.stampOf] using hmid

end Histories

section Runs

variable {α : Type*} [Zero α] [Add α] [Sub α] [Mul α] [Div α] [Neg α] [OfScientific α]
  [IntCast α] [LT α] [DecidableLT α] [LE α] [DecidableLE α] [DecidableEq α]
  {cfg : SystemConfig α} {constructed : ℤ} {c : SafetyPidController α}
  {es : List (Event α)}

theorem tracksStamp_next (h : TracksStamp cfg constructed es c)
    (hT : 0 < cfg.timing.localizationTimeout) (e : Event α) :
    TracksStamp cfg constructed (es ++ [e]) (component.next c e) := by
  cases e with
  | setGains gains => exact h.concat rfl rfl rfl
  | reset now => exact h.concat rfl rfl rfl
  | markLocalizationUpdate stamp =>
      refine ⟨h.config, .inl ?_⟩
      rw [latestStamp, lastValue_concat]
      rfl
  | compute now nowReset setpoint measurement =>
      by_cases hguard : c.localizationValid now = true
      · refine h.concat rfl (compute_config nowReset setpoint measurement) ?_
        refine (compute_lastLocalizationUpdate nowReset setpoint measurement).trans ?_
        rw [if_pos hguard]
      · rw [Bool.not_eq_true] at hguard
        refine ⟨(compute_config nowReset setpoint measurement).trans h.config, .inr ?_⟩
        refine ⟨es, now, nowReset, setpoint, measurement, [], rfl, by simp,
          h.staleAt hT hguard, ?_⟩
        refine (compute_lastLocalizationUpdate nowReset setpoint measurement).trans ?_
        rw [hguard]
        rfl

/-- A call that finds the last stamp older than the timeout returns zero. -/
def ZeroWhileStale (timeout constructed : ℤ) (c : SafetyPidController α)
    (es : List (Event α)) : Prop :=
  ∀ pre now nowReset setpoint measurement post,
    es = pre ++ .compute now nowReset setpoint measurement :: post →
    StaleAt timeout constructed pre now →
    component.output (component.run c pre)
      (.compute now nowReset setpoint measurement) = some 0

/-- The controller at the start of a run: constructed and configured. -/
def configured (cfg : SystemConfig α) (nowReset constructed nowConfig : ℤ) :
    SafetyPidController α :=
  ((create nowReset constructed).applyConfig cfg nowConfig).1

omit [Add α] [Sub α] [Mul α] [Div α] [Neg α] [IntCast α] [LT α] [DecidableLT α]
  [DecidableEq α] in
theorem tracksStamp_configured (nowReset nowConfig : ℤ) :
    TracksStamp cfg constructed [] (configured cfg nowReset constructed nowConfig) := by
  unfold configured applyConfig
  dsimp only
  split <;> exact ⟨rfl, .inl rfl⟩

theorem tracksStamp_run (hT : 0 < cfg.timing.localizationTimeout)
    (nowReset constructed nowConfig : ℤ) (es : List (Event α)) :
    TracksStamp cfg constructed es
      (component.run (configured cfg nowReset constructed nowConfig) es) :=
  Component.run_history (tracksStamp_configured nowReset nowConfig)
    (fun _ e h => tracksStamp_next h hT e) es

/-- In the spaced runs the guard fails at every call that finds the localization
stale. -/
theorem guard_fails_of_spaced (hT : 0 < cfg.timing.localizationTimeout)
    (nowReset nowConfig : ℤ) {pre post : List (Event α)} {now nowR : ℤ}
    {setpoint measurement : α}
    (hes : Spaced cfg.timing.localizationTimeout constructed
      (pre ++ .compute now nowR setpoint measurement :: post))
    (hstale : StaleAt cfg.timing.localizationTimeout constructed pre now) :
    (component.run (configured cfg nowReset constructed nowConfig) pre).localizationValid
      now = false := by
  have htracks := tracksStamp_run hT nowReset constructed nowConfig pre
  rw [localizationValid_eq_false_iff htracks.config hT]
  rcases htracks.stamp with hstamp | ⟨pre', u, uReset, uSetpoint, uMeasurement, mid, rfl,
    hmid, hu, hstamp⟩
  · unfold StaleAt at hstale
    omega
  · rw [hstamp]
    exact hes pre' u uReset uSetpoint uMeasurement mid now nowR setpoint measurement post
      (by simp) hmid hu

/-- Calls that mark nothing move the stamp of the controller forward only, to the
time of one of them. -/
theorem le_lastLocalizationUpdate_run {u : ℤ} {mid : List (Event α)}
    (hmark : ∀ e ∈ mid, e.stampOf = none)
    (hclock : ∀ e ∈ mid, ∀ t ∈ e.clockReadings, u ≤ t)
    (hu : u ≤ c.lastLocalizationUpdate) :
    u ≤ (component.run c mid).lastLocalizationUpdate := by
  induction mid generalizing c with
  | nil => exact hu
  | cons e mid ih =>
      refine ih (fun f hf => hmark f (List.mem_cons_of_mem e hf))
        (fun f hf => hclock f (List.mem_cons_of_mem e hf)) ?_
      cases e with
      | setGains gains => exact hu
      | reset now => exact hu
      | markLocalizationUpdate stamp => cases hmark _ List.mem_cons_self
      | compute now nowReset setpoint measurement =>
          change u ≤ (c.compute now nowReset setpoint
            measurement).1.lastLocalizationUpdate
          rw [compute_lastLocalizationUpdate]
          split
          · exact hu
          · exact hclock _ List.mem_cons_self now (by simp [Event.clockReadings])

theorem spaced_of_guard_fails (hT : 0 < cfg.timing.localizationTimeout)
    (nowReset nowConfig : ℤ)
    (hclock : (es.flatMap Event.clockReadings).Pairwise (· ≤ ·))
    (hguard : ∀ pre now nowR setpoint measurement post,
      es = pre ++ .compute now nowR setpoint measurement :: post →
      StaleAt cfg.timing.localizationTimeout constructed pre now →
      (component.run (configured cfg nowReset constructed nowConfig)
        pre).localizationValid now = false) :
    Spaced cfg.timing.localizationTimeout constructed es := by
  rintro pre u uReset uSetpoint uMeasurement mid v vReset vSetpoint vMeasurement post rfl
    hmid hstale
  -- the clock does not go back before `u` from the first call on
  rw [List.flatMap_append, List.flatMap_cons] at hclock
  have hlater := (List.pairwise_append.1 (List.pairwise_append.1 hclock).2.1).2.2 u
    List.mem_cons_self
  have hmidClock : ∀ e ∈ mid, ∀ t ∈ e.clockReadings, u ≤ t := fun e he t ht =>
    hlater t (List.mem_flatMap.2 ⟨e, List.mem_append_left _ he, ht⟩)
  have huv : u ≤ v := hlater v (List.mem_flatMap.2
    ⟨_, List.mem_append_right _ List.mem_cons_self, List.mem_cons_self⟩)
  -- the first call moves the stamp to `u`, and the second one must fail the guard
  set c := component.run (configured cfg nowReset constructed nowConfig) pre with hc
  have hu : c.localizationValid u = false :=
    hguard pre u uReset uSetpoint uMeasurement _ rfl hstale
  have hmoved : u ≤ (component.next c
      (.compute u uReset uSetpoint uMeasurement)).lastLocalizationUpdate := by
    change u ≤ (c.compute u uReset uSetpoint uMeasurement).1.lastLocalizationUpdate
    rw [compute_lastLocalizationUpdate, hu]
    exact le_rfl
  have hle := le_lastLocalizationUpdate_run hmid hmidClock hmoved
  have hstale' : StaleAt cfg.timing.localizationTimeout constructed
      (pre ++ .compute u uReset uSetpoint uMeasurement :: mid) v := by
    unfold StaleAt at hstale ⊢
    rw [latestStamp_append (by simpa [Event.stampOf] using hmid)]
    omega
  have hv := hguard (pre ++ .compute u uReset uSetpoint uMeasurement :: mid) v vReset
    vSetpoint vMeasurement post (by simp) hstale'
  rw [localizationValid_eq_false_iff
    (tracksStamp_run hT nowReset constructed nowConfig _).config hT,
    Component.run_append, Component.run_cons, ← hc] at hv
  omega

/-- With a clock that does not go backwards, the guard fails at every call that
finds the localization stale exactly in the spaced runs. -/
theorem guard_fails_iff_spaced (hT : 0 < cfg.timing.localizationTimeout)
    (nowReset nowConfig : ℤ)
    (hclock : (es.flatMap Event.clockReadings).Pairwise (· ≤ ·)) :
    (∀ pre now nowR setpoint measurement post,
      es = pre ++ .compute now nowR setpoint measurement :: post →
      StaleAt cfg.timing.localizationTimeout constructed pre now →
      (component.run (configured cfg nowReset constructed nowConfig)
        pre).localizationValid now = false) ↔
      Spaced cfg.timing.localizationTimeout constructed es := by
  refine ⟨spaced_of_guard_fails hT nowReset nowConfig hclock, fun hes => ?_⟩
  rintro pre now nowR setpoint measurement post rfl hstale
  exact guard_fails_of_spaced hT nowReset nowConfig hes hstale

/-- In every run in which a call that finds the localization stale is followed,
before the next mark, only by calls more than the timeout later, every call that
finds the localization stale returns zero. -/
theorem zeroWhileStale_of_spaced (cfg : SystemConfig α)
    (nowReset constructed nowConfig : ℤ) (es : List (Event α))
    (hT : 0 < cfg.timing.localizationTimeout)
    (hes : Spaced cfg.timing.localizationTimeout constructed es) :
    ZeroWhileStale cfg.timing.localizationTimeout constructed
      (configured cfg nowReset constructed nowConfig) es := by
  rintro pre now nowR setpoint measurement post rfl hstale
  have hguard := guard_fails_of_spaced hT nowReset nowConfig hes hstale
  change some (compute _ now nowR setpoint measurement).2 = some 0
  rw [compute_of_stale nowR setpoint measurement hguard]

end Runs

/-- Two calls 0.6 s apart find the localization stale; both return zero. -/
theorem zeroWhileStale_of_spaced_two_calls :
    ZeroWhileStale (α := ℚ) 500000000 0 (configured makeConfig 0 0 0)
      [.compute 600000000 600000000 1 0, .compute 1200000000 1200000000 1 0] := by
  refine zeroWhileStale_of_spaced makeConfig 0 0 0 _ (by decide) ?_
  rintro pre u uReset uSetpoint uMeasurement mid v vReset vSetpoint vMeasurement post
    heq - -
  cases pre with
  | nil =>
      cases mid with
      | nil =>
          cases heq
          decide
      | cons e mid => simp at heq
  | cons e pre =>
      have hlength := congrArg List.length heq
      simp at hlength
      omega

/-- The localization is 0.6 s old. The first call returns zero, and the next one,
0.1 s later, an output. -/
theorem not_always_zeroWhileStale :
    ¬ ∀ (cfg : SystemConfig ℚ) (nowReset constructed nowConfig : ℤ)
        (es : List (Event ℚ)),
      0 < cfg.timing.localizationTimeout →
      (nowReset :: constructed :: nowConfig ::
        es.flatMap Event.clockReadings).Pairwise (· ≤ ·) →
      ZeroWhileStale cfg.timing.localizationTimeout constructed
        (configured cfg nowReset constructed nowConfig) es := by
  intro h
  have hzero := h makeConfig 0 0 0
    [.setGains { kp := 1 }, .compute 600000000 600000000 1 0,
      .compute 700000000 700000000 1 0] (by decide) (by decide)
    [.setGains { kp := 1 }, .compute 600000000 600000000 1 0] 700000000 700000000 1 0 []
    rfl (by decide)
  exact absurd hzero (by decide +kernel)

end SafetyPidController

end SafetyCore
