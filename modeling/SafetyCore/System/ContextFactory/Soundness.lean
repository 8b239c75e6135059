import SafetyCore.Config.EnvLoader.Durations
import SafetyCore.System.ContextFactory.Rebuild

/-!
# What a context that was built is made of

A context that is built has a configuration within the bounds of the startup, and one that is
not built leaves `out` as it was. The durations are those of the environment or of the
defaults, unless a minus sign has wrapped one to a positive count, which the checks cannot
tell from a count that was meant.
-/

namespace SafetyCore

open Arithmetic Text

section Double

variable {K : Type*} [Field K] [LinearOrder K] {F : Format K} {P : Type*}
  (getenv : String → Option (List Char)) (strtod : List Char → Conversion (Double F))
  (outConfig steadyClock : P) (out : ContextWithConfig P (Double F))
  (options : ContextFactoryOptions P (Double F))

/-- The three durations are those of the environment or of the defaults. -/
structure DurationsUnwrapped (getenv : String → Option (List Char)) (defaults timing :
    TimingConfig) : Prop where
  controlPeriod : Unwrapped getenv "SAFETY_CORE_CONTROL_PERIOD_NS" defaults.controlPeriod
    timing.controlPeriod
  watchdogPeriod : Unwrapped getenv "SAFETY_CORE_WATCHDOG_PERIOD_NS" defaults.watchdogPeriod
    timing.watchdogPeriod
  localizationTimeout : Unwrapped getenv "SAFETY_CORE_LOCALIZATION_TIMEOUT_NS"
    defaults.localizationTimeout timing.localizationTimeout

/-- If the context is built, then its configuration is within the bounds of the startup, no
duration of it was wrapped, the controller accepts it, and twice the localization timeout is a
64-bit count. If not, nothing is written. -/
def BuildsSoundly : Prop :=
  let built := buildContext getenv strtod outConfig steadyClock out options
  let cfg := built.1.config
  (built.2.1.isOk = true →
    StartupConfig options.validationPolicy cfg ∧
    DurationsUnwrapped getenv options.defaults.timing cfg.timing ∧
    (∀ (c : SafetyPidController (Double F)) (now : ℤ), (c.applyConfig cfg now).2 = .ok) ∧
    2 * cfg.timing.localizationTimeout < 2 ^ 64) ∧
  (built.2.1.isOk = false → built.1 = out)

/-- One of the durations comes from a number that a minus sign has wrapped. -/
def AnyDurationWraps (getenv : String → Option (List Char)) : Prop :=
  WrapsToPositive getenv "SAFETY_CORE_CONTROL_PERIOD_NS" ∨
    WrapsToPositive getenv "SAFETY_CORE_WATCHDOG_PERIOD_NS" ∨
    WrapsToPositive getenv "SAFETY_CORE_LOCALIZATION_TIMEOUT_NS"

/-- For every environment, all defaults and both policies: the context is built soundly if and
only if no duration variable wraps to a positive count, or the loaded configuration is refused,
since its version is newer or with the current version it is not accepted. -/
theorem buildContext_sound_iff :
    BuildsSoundly getenv strtod outConfig steadyClock out options ↔
      ¬ AnyDurationWraps getenv ∨
        ¬ ((loadFromEnv getenv strtod options.defaults).configVersion ≤
            kCurrentSystemConfigVersion ∧
          Accepted ((loadFromEnv getenv strtod options.defaults).withVersion
            kCurrentSystemConfigVersion) options.validationPolicy) := by
  have hsound := buildContext_sound getenv strtod outConfig steadyClock out options
  have hcases := buildContext_cases getenv strtod outConfig steadyClock out options
  rw [← buildContext_isOk_iff getenv strtod outConfig steadyClock out options]
  dsimp only at hsound
  unfold BuildsSoundly
  rcases hcases with ⟨herror, hout⟩ | ⟨hok, hconfig, haccepted⟩
  · -- Nothing is written.
    simp [herror, hout]
  obtain ⟨hstartup, -, -, -, happly, htwice⟩ := hsound.1 hok
  have hcontrol := not_le.1 haccepted.controlPeriod_pos
  have hwatchdog := hcontrol.trans_le hstartup.watchdogPeriod
  have hlocalization := hstartup.localizationTimeout
  rw [or_iff_left (not_not.2 hok)]
  constructor
  · rintro ⟨hbuilt, -⟩
    obtain ⟨-, hdurations, -, -⟩ := hbuilt hok
    rintro (hwraps | hwraps | hwraps)
    · exact hdurations.controlPeriod.not_wrapsToPositive hcontrol hwraps
    · exact hdurations.watchdogPeriod.not_wrapsToPositive hwatchdog hwraps
    · exact hdurations.localizationTimeout.not_wrapsToPositive hlocalization hwraps
  · intro hwraps
    obtain ⟨hno, hrest⟩ := not_or.1 hwraps
    obtain ⟨hno', hno''⟩ := not_or.1 hrest
    refine ⟨fun _ => ⟨hstartup, ?_, happly, htwice⟩, hsound.2⟩
    rw [hconfig] at hcontrol hwatchdog hlocalization ⊢
    exact ⟨unwrapped_of_not_wrapsToPositive hno hcontrol,
      unwrapped_of_not_wrapsToPositive hno' hwatchdog,
      unwrapped_of_not_wrapsToPositive hno'' hlocalization⟩

end Double

/-- An environment in which the control period has the digits of `2 ^ 64 - 10 ^ 7` and a minus
sign. -/
def wrappedPeriod (name : String) : Option (List Char) :=
  if name = "SAFETY_CORE_CONTROL_PERIOD_NS" then some "-18446744073699551616".toList else none

/-- The digits become a control period of 10 ms, over the configuration of the controller's
tests. -/
theorem buildContext_wrappedPeriod :
    ¬ ∀ (getenv : String → Option (List Char))
        (strtod : List Char → Conversion (ExactDouble ℚ)) (outConfig steadyClock : ℕ)
        (out : ContextWithConfig ℕ (ExactDouble ℚ))
        (options : ContextFactoryOptions ℕ (ExactDouble ℚ)),
      BuildsSoundly getenv strtod outConfig steadyClock out options := by
  intro h
  obtain ⟨hbuilt, -⟩ := h wrappedPeriod (fun s => ⟨0, s, false⟩) 1 2 ⟨makeConfig, {}⟩
    { defaults := makeConfig }
  obtain ⟨-, hdurations, -, -⟩ := hbuilt (by decide +kernel)
  have hminus : IsNumeral true "-18446744073699551616".toList 18446744073699551616 :=
    isNumeral_iff.2 ⟨"18446744073699551616".toList, by decide +kernel, by decide +kernel,
      List.all_eq_true.1 (by decide +kernel), by decide +kernel⟩
  have hread := hdurations.controlPeriod.read _ true _ (if_pos rfl) hminus (by norm_num)
  have hperiod : (buildContext wrappedPeriod (fun s => ⟨0, s, false⟩) 1 2
      (⟨makeConfig, {}⟩ : ContextWithConfig ℕ (ExactDouble ℚ))
      { defaults := makeConfig }).1.config.timing.controlPeriod = 10000000 := by
    decide +kernel
  rw [hperiod] at hread
  exact absurd hread (by norm_num)

end SafetyCore
