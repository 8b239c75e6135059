import SafetyCore.System.ContextFactory

/-!
# Building a context again

Every variable of the environment either leaves its setting alone or fixes it, so loading twice is
loading once, as the application does before it builds its context. A configuration that was built
is built again from itself, with the same environment and the same policy.
-/

namespace SafetyCore

open Arithmetic Text

namespace SystemConfig

variable {α : Type*}

def withVersion (cfg : SystemConfig α) (version : UInt16) : SystemConfig α :=
  { cfg with configVersion := version }

@[simp] theorem withVersion_self (cfg : SystemConfig α) :
    cfg.withVersion cfg.configVersion = cfg := rfl

theorem eq_withVersion {cfg cfg' : SystemConfig α} (htiming : cfg'.timing = cfg.timing)
    (henvelope : cfg'.envelope = cfg.envelope) (htasks : cfg'.maxTasks = cfg.maxTasks) :
    cfg' = cfg.withVersion cfg'.configVersion := by
  cases cfg
  cases cfg'
  cases htiming
  cases henvelope
  cases htasks
  rfl

end SystemConfig

section Loading

variable {getenv : String → Option (List Char)} {name : String}

/-- A variable is ignored or fixes the value, whatever the fallback is. -/
theorem readUInt64_cases (getenv : String → Option (List Char)) (name : String) :
    (∀ fallback, readUInt64 getenv name fallback = fallback) ∨
      ∃ value, ∀ fallback, readUInt64 getenv name fallback = value := by
  unfold readUInt64
  cases getenv name with
  | none => exact .inl fun _ => rfl
  | some s =>
      dsimp only
      split_ifs
      · exact .inr ⟨_, fun _ => rfl⟩
      · exact .inl fun _ => rfl
      · exact .inl fun _ => rfl

/-- The same, if the fallback is within the bounds. -/
theorem readUInt64Bounded_cases (getenv : String → Option (List Char)) (name : String)
    (minValue maxValue : UInt64) :
    (∀ fallback, readUInt64Bounded getenv name fallback minValue maxValue = fallback) ∨
      ∃ value, ∀ fallback, readUInt64Bounded getenv name fallback minValue maxValue = value := by
  unfold readUInt64Bounded
  rcases readUInt64_cases getenv name with hkept | ⟨value, hvalue⟩
  · exact .inl fun fallback => by simp [hkept]
  · simp only [hvalue]
    split_ifs
    · exact .inl fun _ => rfl
    · exact .inr ⟨_, fun _ => rfl⟩

theorem readDouble_cases {α : Type*} [FiniteTest α] (getenv : String → Option (List Char))
    (strtod : List Char → Conversion α) (name : String) :
    (∀ fallback, readDouble getenv strtod name fallback = fallback) ∨
      ∃ value, ∀ fallback, readDouble getenv strtod name fallback = value := by
  unfold readDouble
  cases getenv name with
  | none => exact .inl fun _ => rfl
  | some s =>
      dsimp only
      split_ifs
      · exact .inr ⟨_, fun _ => rfl⟩
      · exact .inl fun _ => rfl

/-- What is ignored or fixed by a function is fixed by it. -/
theorem idempotent_of_cases {β : Type*} {f : β → β}
    (h : (∀ x, f x = x) ∨ ∃ value, ∀ x, f x = value) (x : β) : f (f x) = f x := by
  rcases h with hkept | ⟨value, hvalue⟩
  · exact hkept _
  · rw [hvalue, hvalue]

variable {α : Type*} [FiniteTest α] {strtod : List Char → Conversion α}

theorem toDuration_readDurationNs_idem (getenv : String → Option (List Char)) (name : String)
    (count : ℤ) :
    toDuration (readDurationNs getenv name (toDuration (readDurationNs getenv name count))) =
      toDuration (readDurationNs getenv name count) := by
  unfold readDurationNs
  rw [ofInt_toDuration, idempotent_of_cases (readUInt64_cases getenv name)]

/-- The version is the one of the environment, or the fallback. -/
theorem configVersion_cases (getenv : String → Option (List Char))
    (strtod : List Char → Conversion α) :
    (∀ defaults : SystemConfig α,
        (loadFromEnv getenv strtod defaults).configVersion = defaults.configVersion) ∨
      ∃ version, ∀ defaults : SystemConfig α,
        (loadFromEnv getenv strtod defaults).configVersion = version := by
  unfold loadFromEnv
  rcases readUInt64Bounded_cases getenv "SAFETY_CORE_CONFIG_VERSION" 0 65535 with
    hkept | ⟨value, hvalue⟩
  · exact .inl fun defaults => by simp [hkept]
  · exact .inr ⟨_, fun defaults => by rw [hvalue]⟩

/-- What is loaded again from a configuration that was loaded, with any version, is that
configuration but for the version. -/
theorem loadFromEnv_loaded (getenv : String → Option (List Char))
    (strtod : List Char → Conversion α) (defaults : SystemConfig α) (version : UInt16) :
    let again := loadFromEnv getenv strtod
      ((loadFromEnv getenv strtod defaults).withVersion version)
    again = (loadFromEnv getenv strtod defaults).withVersion again.configVersion := by
  have htasks : ∀ x : UInt8,
      (readUInt64Bounded getenv "SAFETY_CORE_MAX_TASKS"
        (readUInt64Bounded getenv "SAFETY_CORE_MAX_TASKS" x.toUInt64 0 255).toUInt8.toUInt64
          0 255).toUInt8 =
        (readUInt64Bounded getenv "SAFETY_CORE_MAX_TASKS" x.toUInt64 0 255).toUInt8 := by
    intro x
    rcases readUInt64Bounded_cases getenv "SAFETY_CORE_MAX_TASKS" 0 255 with
      hkept | ⟨value, hvalue⟩
    · simp [hkept]
    · rw [hvalue, hvalue]
  have hdouble : ∀ name x, readDouble getenv strtod name (readDouble getenv strtod name x) =
      readDouble getenv strtod name x := fun name =>
    idempotent_of_cases (readDouble_cases getenv strtod name)
  refine SystemConfig.eq_withVersion ?_ ?_ ?_
  · simp only [loadFromEnv, SystemConfig.withVersion, toDuration_readDurationNs_idem]
  · simp only [loadFromEnv, SystemConfig.withVersion, hdouble]
  · exact htasks defaults.maxTasks

/-- Loading twice is loading once. -/
theorem loadFromEnv_idempotent (getenv : String → Option (List Char))
    (strtod : List Char → Conversion α) (defaults : SystemConfig α) :
    loadFromEnv getenv strtod (loadFromEnv getenv strtod defaults) =
      loadFromEnv getenv strtod defaults := by
  have hversion : (loadFromEnv getenv strtod (loadFromEnv getenv strtod defaults)
      ).configVersion = (loadFromEnv getenv strtod defaults).configVersion := by
    rcases configVersion_cases getenv strtod with hkept | ⟨value, hvalue⟩
    · exact hkept _
    · rw [hvalue, hvalue]
  have hloaded := loadFromEnv_loaded getenv strtod defaults
    (loadFromEnv getenv strtod defaults).configVersion
  dsimp only [SystemConfig.withVersion_self] at hloaded
  rwa [hversion, SystemConfig.withVersion_self] at hloaded

end Loading

section Rebuild

variable {P α : Type*} [Zero α] [OfScientific α] [LT α] [DecidableLT α] [LE α] [DecidableLE α]
  [DecidableEq α] [FiniteTest α]

omit [Zero α] [OfScientific α] [LT α] [DecidableLT α] [LE α] [DecidableLE α] [DecidableEq α]
  [FiniteTest α] in
/-- Only a newer version is not migrated. -/
theorem migrateToCurrent_ok_iff (input : SystemConfig α) :
    (migrateToCurrent input).ok = true ↔
      input.configVersion ≤ kCurrentSystemConfigVersion := by
  have hversion : input.configVersion ≤ kCurrentSystemConfigVersion ↔
      input.configVersion = kCurrentSystemConfigVersion ∨
        input.configVersion = kLegacySystemConfigVersion ∨ input.configVersion = 0 := by
    simp only [UInt16.le_iff_toNat_le, ← UInt16.toNat_inj, kCurrentSystemConfigVersion,
      kLegacySystemConfigVersion, UInt16.reduceToNat]
    omega
  rw [hversion]
  unfold migrateToCurrent
  dsimp only
  split
  next hcurrent => simp [hcurrent, MigrationResult.success]
  next hcurrent =>
    split
    next hlegacy => simp [hlegacy, MigrationResult.success]
    next hlegacy =>
      split
      next hzero => simp [hzero, MigrationResult.success]
      next hzero => simp [hcurrent, hlegacy, hzero, MigrationResult.error]

variable (getenv : String → Option (List Char)) (strtod : List Char → Conversion α)
  (outConfig steadyClock : P) (out : ContextWithConfig P α)

/-- A context is built if the version that is loaded is not newer and the rest is accepted with
the current one. -/
theorem buildContext_isOk_iff (options : ContextFactoryOptions P α) :
    (buildContext getenv strtod outConfig steadyClock out options).2.1.isOk = true ↔
      (loadFromEnv getenv strtod options.defaults).configVersion ≤ kCurrentSystemConfigVersion ∧
        Accepted ((loadFromEnv getenv strtod options.defaults).withVersion
          kCurrentSystemConfigVersion) options.validationPolicy := by
  rw [← migrateToCurrent_ok_iff, ← validate_ok_iff]
  unfold buildContext
  dsimp only
  split
  next herror =>
    rw [Bool.not_eq_true'] at herror
    simp [herror, Result.isOk, Result.fault]
  next hmigrated =>
    rw [Bool.not_eq_true', Bool.not_eq_false] at hmigrated
    rw [migrateToCurrent_config hmigrated]
    split
    next hinvalid =>
      rw [Bool.not_eq_true'] at hinvalid
      simp [hinvalid, Result.isOk, Result.fault, SystemConfig.withVersion]
    next hvalid =>
      rw [Bool.not_eq_true', Bool.not_eq_false] at hvalid
      simp [hmigrated, hvalid, Result.isOk, Result.ok, SystemConfig.withVersion]

/-- If a context is built, then what is built again from its configuration, in the same
environment and under the same policy, is the same configuration, whatever the other arguments
are. And a configuration that was loaded before it is passed on as the defaults makes no
difference. -/
theorem buildContext_again (options : ContextFactoryOptions P α) :
    let built := buildContext getenv strtod outConfig steadyClock out options
    (built.2.1.isOk = true →
      ∀ (outConfig' steadyClock' : P) (out' : ContextWithConfig P α)
        (options' : ContextFactoryOptions P α), options'.defaults = built.1.config →
        options'.validationPolicy = options.validationPolicy →
        (buildContext getenv strtod outConfig' steadyClock' out' options').2.1.isOk = true ∧
          (buildContext getenv strtod outConfig' steadyClock' out' options').1.config =
            built.1.config) ∧
    buildContext getenv strtod outConfig steadyClock out
        { options with defaults := loadFromEnv getenv strtod options.defaults } = built := by
  intro built
  constructor
  · intro hok outConfig' steadyClock' out' options' hdefaults hpolicy
    obtain ⟨hversion, haccepted⟩ :=
      (buildContext_isOk_iff getenv strtod outConfig steadyClock out options).1 hok
    have hconfig : built.1.config = (loadFromEnv getenv strtod options.defaults).withVersion
        kCurrentSystemConfigVersion := by
      rcases buildContext_cases getenv strtod outConfig steadyClock out options with
        ⟨herror, -⟩ | ⟨-, hconfig, -⟩
      · exact absurd hok (by simp [built, herror])
      · exact hconfig
    have hagain := loadFromEnv_loaded getenv strtod options.defaults kCurrentSystemConfigVersion
    dsimp only at hagain
    rw [← hconfig, ← hdefaults] at hagain
    have hversion' : (loadFromEnv getenv strtod options'.defaults).configVersion ≤
        kCurrentSystemConfigVersion := by
      rcases configVersion_cases getenv strtod with hkept | ⟨value, hvalue⟩
      · rw [hkept, hdefaults, hconfig]
        exact (by decide : kCurrentSystemConfigVersion ≤ kCurrentSystemConfigVersion)
      · rw [hvalue, ← hvalue options.defaults]
        exact hversion
    have hcurrent : (loadFromEnv getenv strtod options'.defaults).withVersion
        kCurrentSystemConfigVersion = built.1.config := by
      rw [hagain, hconfig]
      rfl
    have hok' : (buildContext getenv strtod outConfig' steadyClock' out' options').2.1.isOk =
        true := by
      refine (buildContext_isOk_iff ..).2 ⟨hversion', ?_⟩
      rw [hcurrent, hpolicy, hconfig]
      exact haccepted
    refine ⟨hok', ?_⟩
    rcases buildContext_cases getenv strtod outConfig' steadyClock' out' options' with
      ⟨herror, -⟩ | ⟨-, hconfig', -⟩
    · exact absurd hok' (by simp [herror])
    · exact hconfig'.trans hcurrent
  · unfold built buildContext
    dsimp only
    rw [loadFromEnv_idempotent]

end Rebuild

/-- An environment with a control period and an old version, over the configuration of the
controller's tests. -/
def periodOfV1 (name : String) : Option (List Char) :=
  if name = "SAFETY_CORE_CONTROL_PERIOD_NS" then some "2000000".toList
  else if name = "SAFETY_CORE_CONFIG_VERSION" then some ['1']
  else none

def optionsOf (defaults : SystemConfig ℚ) : ContextFactoryOptions ℕ ℚ :=
  { defaults := defaults }

theorem buildContext_again_periodOfV1 :
    let build := fun defaults =>
      buildContext periodOfV1 (fun s => ⟨0, s, false⟩) 1 2 ⟨makeConfig, {}⟩ (optionsOf defaults)
    (build (build makeConfig).1.config).2.1.isOk = true ∧
      (build (build makeConfig).1.config).1.config = (build makeConfig).1.config ∧
      build (loadFromEnv periodOfV1 (fun s => ⟨0, s, false⟩) makeConfig) = build makeConfig := by
  have hok : (buildContext periodOfV1 (fun s => ⟨0, s, false⟩) 1 2 ⟨makeConfig, {}⟩
      (optionsOf makeConfig)).2.1.isOk = true := by
    decide +kernel
  obtain ⟨hagain, hloaded⟩ := buildContext_again periodOfV1 (fun s => ⟨0, s, false⟩) 1 2
    ⟨makeConfig, {}⟩ (optionsOf makeConfig)
  obtain ⟨hok', hconfig⟩ := hagain hok 1 2 ⟨makeConfig, {}⟩ (optionsOf _) rfl rfl
  exact ⟨hok', hconfig, hloaded⟩

end SafetyCore
