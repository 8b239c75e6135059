import SafetyCore.Config.SystemConfig

/-!
# Migration of a configuration

`migrateToCurrent` gives the configurations of older schemas the current version and
refuses those of newer ones.
-/

namespace SafetyCore

def kLegacySystemConfigVersion : UInt16 := 1

structure MigrationResult (α : Type*) where
  ok : Bool
  migrated : Bool
  config : SystemConfig α
  fromVersion : UInt16
  toVersion : UInt16
  message : String

variable {α : Type*}

namespace MigrationResult

def success (cfg : SystemConfig α) (didMigrate : Bool) (msg : String)
    (fromVersion toVersion : UInt16) : MigrationResult α :=
  ⟨true, didMigrate, cfg, fromVersion, toVersion, msg⟩

def error (msg : String) (cfg : SystemConfig α) (fromVersion toVersion : UInt16) :
    MigrationResult α :=
  ⟨false, false, cfg, fromVersion, toVersion, msg⟩

end MigrationResult

def migrateToCurrent (input : SystemConfig α) : MigrationResult α :=
  let upgraded := { input with configVersion := kCurrentSystemConfigVersion }
  if input.configVersion = kCurrentSystemConfigVersion then
    .success input false "" input.configVersion input.configVersion
  else if input.configVersion = kLegacySystemConfigVersion then
    .success upgraded true "migrated config v1 to v2" input.configVersion
      kCurrentSystemConfigVersion
  else if input.configVersion = 0 then
    .success upgraded true "migrated unversioned config to v2" input.configVersion
      kCurrentSystemConfigVersion
  else
    .error "unsupported future config version" input input.configVersion
      kCurrentSystemConfigVersion

/-- A migration changes nothing but the version. -/
theorem migrateToCurrent_config {input : SystemConfig α}
    (h : (migrateToCurrent input).ok = true) :
    (migrateToCurrent input).config =
      { input with configVersion := kCurrentSystemConfigVersion } := by
  unfold migrateToCurrent at *
  dsimp only at *
  split
  next hcurrent =>
    rw [← hcurrent]
    rfl
  next hcurrent =>
    rw [if_neg hcurrent] at h
    split
    · rfl
    next hlegacy =>
      rw [if_neg hlegacy] at h
      split
      · rfl
      next hzero =>
        rw [if_neg hzero] at h
        cases h

end SafetyCore
