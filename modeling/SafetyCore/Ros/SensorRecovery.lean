import SafetyCore.Collections.AssocList

/-!
# The sensor recovery manager

`SensorRecoveryManager` keeps one record per sensor. Its hash map is a list of
named records, in the order in which the sensors were first heard of. A scan of
the map visits the names in an order the library does not fix, so `checkTimeouts`
takes that order as an argument.
-/

namespace SafetyCore

/-! The status constants of the `SensorHealth` message; the field itself may
hold any byte. -/

namespace SensorHealth

def unknown : UInt8 := 0

def healthy : UInt8 := 1

def degraded : UInt8 := 2

def fault : UInt8 := 3

theorem unknown_ne_healthy : unknown ≠ healthy := by decide

theorem unknown_ne_degraded : unknown ≠ degraded := by decide

theorem unknown_ne_fault : unknown ≠ fault := by decide

theorem healthy_ne_degraded : healthy ≠ degraded := by decide

theorem healthy_ne_fault : healthy ≠ fault := by decide

theorem degraded_ne_fault : degraded ≠ fault := by decide

end SensorHealth

structure SensorRecoveryInfo where
  status : UInt8 := SensorHealth.unknown
  degradationStartNs : Option UInt64 := none
  timedOut : Bool := false
  deriving DecidableEq, Repr

inductive HealthTransition
  | kNone
  | kDegraded
  | kRecovered
  deriving DecidableEq, Repr

structure SensorRecoveryManager where
  sensorStates : List (String × SensorRecoveryInfo) := []
  worstSensorStatus : UInt8 := SensorHealth.unknown
  lastSensorHealthTimeNs : Option UInt64 := none
  inDegradedMode : Bool := false
  deriving DecidableEq, Repr

namespace SensorRecoveryManager

variable (r : SensorRecoveryManager)

/-- The record of a sensor, if it has one. -/
def find (name : String) : Option SensorRecoveryInfo :=
  r.sensorStates.lookup name

/-- Overwrite the record of a sensor. -/
def assign (name : String) (info : SensorRecoveryInfo) : SensorRecoveryManager :=
  { r with sensorStates := AssocList.overwrite name info r.sensorStates }

/-- Add the record of a new sensor. -/
def emplace (name : String) (info : SensorRecoveryInfo) : SensorRecoveryManager :=
  { r with sensorStates := r.sensorStates ++ [(name, info)] }

/-- The transition names the sensor of the message; the empty name that goes
with `kNone` in the source is read by nobody. -/
def processHealthMsg (name : String) (status : UInt8) (nowNs : UInt64) :
    SensorRecoveryManager × HealthTransition :=
  match r.find name with
  | none =>
      if status = SensorHealth.degraded then
        (r.emplace name { status := status, degradationStartNs := some nowNs },
          .kDegraded)
      else
        (r.emplace name { status := status }, .kNone)
  | some info =>
      if info.timedOut && status = SensorHealth.degraded then
        -- already timed out; ignore further degraded messages
        (r, .kNone)
      else if info.status = status then
        (r, .kNone)
      else if status = SensorHealth.degraded then
        (r.assign name { info with status := status, degradationStartNs := some nowNs },
          .kDegraded)
      else if info.status = SensorHealth.degraded && status = SensorHealth.healthy then
        (r.assign name { info with status := status, degradationStartNs := none },
          .kRecovered)
      else if status = SensorHealth.fault then
        (r.assign name { info with status := status, degradationStartNs := none }, .kNone)
      else
        (r.assign name { info with status := status }, .kNone)

/-- The sensor is degraded, and has been for longer than the timeout. -/
def expired (nowNs recoveryTimeoutNs : UInt64) (name : String) : Bool :=
  match r.find name with
  | none => false
  | some info =>
      match info.degradationStartNs with
      | none => false
      | some start =>
          info.status = SensorHealth.degraded && nowNs - start > recoveryTimeoutNs

/-- Mark the first expired sensor in the order of the scan, and name it; the
empty name if there is none. -/
def checkTimeouts (nowNs recoveryTimeoutNs : UInt64) (order : List String) :
    SensorRecoveryManager × String :=
  match order.find? (r.expired nowNs recoveryTimeoutNs) with
  | none => (r, "")
  | some name =>
      match r.find name with
      | none => (r, "")
      | some info =>
          (r.assign name { info with timedOut := true, degradationStartNs := none },
            name)

def updateSummary (status : UInt8) (nowNs : UInt64) : SensorRecoveryManager :=
  { r with worstSensorStatus := status, lastSensorHealthTimeNs := some nowNs }

def isAnyDegraded : Bool :=
  r.sensorStates.any fun pair => pair.2.status = SensorHealth.degraded

def setDegradedMode (val : Bool) : SensorRecoveryManager :=
  { r with inDegradedMode := val }

/-! ## The records after an update -/

section Records

variable {r} {name : String}

/-- Write the record of a sensor, new or not. -/
def store (r : SensorRecoveryManager) (name : String) (info : SensorRecoveryInfo) :
    SensorRecoveryManager :=
  if r.find name = none then r.emplace name info else r.assign name info

theorem find_store_self (info : SensorRecoveryInfo) :
    (r.store name info).find name = some info := by
  unfold store
  split
  · rename_i h
    exact AssocList.lookup_concat_self h info
  · rename_i h
    obtain ⟨old, hold⟩ := Option.ne_none_iff_exists'.1 h
    rw [find] at hold
    rw [find, assign, AssocList.lookup_overwrite_self, hold, Option.map_some]

theorem find_store_of_ne {other : String} (h : other ≠ name)
    (info : SensorRecoveryInfo) : (r.store name info).find other = r.find other := by
  unfold store
  split
  · exact AssocList.lookup_concat_of_ne h info r.sensorStates
  · exact AssocList.lookup_overwrite_of_ne h info r.sensorStates

theorem mem_store {info : SensorRecoveryInfo} {entry : String × SensorRecoveryInfo}
    (h : entry ∈ (r.store name info).sensorStates) :
    entry = (name, info) ∨ entry ∈ r.sensorStates := by
  unfold store at h
  split at h
  · rw [emplace, List.mem_append, List.mem_singleton] at h
    exact h.symm
  · exact AssocList.mem_overwrite h

theorem isAnyDegraded_iff :
    r.isAnyDegraded = true ↔
      ∃ entry ∈ r.sensorStates, entry.2.status = SensorHealth.degraded := by
  simp [isAnyDegraded]

/-- A write makes no sensor degraded but its own. -/
theorem isAnyDegraded_of_store {info : SensorRecoveryInfo}
    (hd : info.status = SensorHealth.degraded → r.isAnyDegraded = true)
    (h : (r.store name info).isAnyDegraded = true) : r.isAnyDegraded = true := by
  obtain ⟨entry, hmem, hentry⟩ := isAnyDegraded_iff.1 h
  rcases mem_store hmem with rfl | hmem
  · exact hd hentry
  · exact isAnyDegraded_iff.2 ⟨entry, hmem, hentry⟩

/-- The sensor is recorded as degraded. -/
def RecordsDegraded (r : SensorRecoveryManager) (name : String) : Prop :=
  ∃ info, r.find name = some info ∧ info.status = SensorHealth.degraded

theorem RecordsDegraded.isAnyDegraded (h : r.RecordsDegraded name) :
    r.isAnyDegraded = true := by
  obtain ⟨info, hfind, hd⟩ := h
  exact isAnyDegraded_iff.2 ⟨_, AssocList.mem_of_lookup hfind, hd⟩

/-- What is recorded does not depend on the summary and the degraded flag. -/
theorem RecordsDegraded.congr {r' : SensorRecoveryManager}
    (hr : r'.sensorStates = r.sensorStates) (h : r.RecordsDegraded name) :
    r'.RecordsDegraded name := by
  rw [RecordsDegraded, find, ← hr] at h
  exact h

theorem isAnyDegraded_congr {r' : SensorRecoveryManager}
    (hr : r'.sensorStates = r.sensorStates) : r'.isAnyDegraded = r.isAnyDegraded := by
  rw [isAnyDegraded, isAnyDegraded, hr]

end Records

/-! ## The health messages of one sensor -/

/-- A message that reports the sensor degraded is ignored: the sensor has timed
out once, and is not recorded as degraded any more. -/
def Ignores (name : String) (status : UInt8) : Prop :=
  status = SensorHealth.degraded ∧
    ∃ info, r.find name = some info ∧ info.timedOut = true ∧
      info.status ≠ SensorHealth.degraded

section Messages

/-- A message is ignored, repeats the recorded status, or writes its own status
and is then a degradation exactly when that status is `DEGRADED`. -/
theorem processHealthMsg_cases (name : String) (status : UInt8) (nowNs : UInt64) :
    (r.processHealthMsg name status nowNs = (r, .kNone) ∧
      (r.Ignores name status ∨ ∃ info, r.find name = some info ∧ info.status = status)) ∨
    ∃ info, info.status = status ∧
      (r.processHealthMsg name status nowNs).1 = r.store name info ∧
      ((r.processHealthMsg name status nowNs).2 = .kDegraded ↔
        status = SensorHealth.degraded) := by
  unfold processHealthMsg
  cases hf : r.find name with
  | none =>
      have hstore : ∀ info, r.store name info = r.emplace name info := by
        simp [store, hf]
      right
      simp only [hstore]
      split
      · rename_i hs
        exact ⟨_, rfl, rfl, by simp [hs]⟩
      · rename_i hs
        exact ⟨_, rfl, rfl, by simp [hs]⟩
  | some info =>
      dsimp only
      split
      · rename_i hto
        simp only [Bool.and_eq_true, decide_eq_true_eq] at hto
        left
        by_cases hd : info.status = SensorHealth.degraded
        · exact ⟨rfl, .inr ⟨info, rfl, hd.trans hto.2.symm⟩⟩
        · exact ⟨rfl, .inl ⟨hto.2, info, hf, hto.1, hd⟩⟩
      · split
        · rename_i hsame
          exact .inl ⟨rfl, .inr ⟨info, rfl, hsame⟩⟩
        · have hstore : ∀ info, r.store name info = r.assign name info := by
            simp [store, hf]
          right
          simp only [hstore]
          repeat' split
          all_goals
            refine ⟨_, ?_, rfl, ?_⟩
            · rfl
            · simp_all

variable {r} {name : String} {status : UInt8} {nowNs : UInt64}

/-- A message changes the record of its own sensor only. -/
theorem processHealthMsg_find_of_ne {other : String} (h : other ≠ name) :
    (r.processHealthMsg name status nowNs).1.find other = r.find other := by
  rcases r.processHealthMsg_cases name status nowNs
    with ⟨heq, -⟩ | ⟨info, -, hstore, -⟩
  · rw [heq]
  · rw [hstore, find_store_of_ne h]

/-- A message that reports the sensor degraded and is not ignored leaves it
recorded so. -/
theorem recordsDegraded_processHealthMsg
    (h : ¬ r.Ignores name SensorHealth.degraded) :
    (r.processHealthMsg name SensorHealth.degraded nowNs).1.RecordsDegraded name := by
  rcases r.processHealthMsg_cases name SensorHealth.degraded nowNs
    with ⟨heq, hcase⟩ | ⟨info, hd, hstore, -⟩
  · rw [heq]
    exact hcase.resolve_left h
  · rw [hstore]
    exact ⟨info, find_store_self info, hd⟩

/-- Only a degradation makes a sensor degraded. -/
theorem isAnyDegraded_of_processHealthMsg
    (hk : (r.processHealthMsg name status nowNs).2 ≠ .kDegraded)
    (h : (r.processHealthMsg name status nowNs).1.isAnyDegraded = true) :
    r.isAnyDegraded = true := by
  rcases r.processHealthMsg_cases name status nowNs
    with ⟨heq, -⟩ | ⟨info, hs, hstore, hiff⟩
  · rwa [heq] at h
  · rw [hstore] at h
    refine isAnyDegraded_of_store (fun hd => ?_) h
    exact absurd (hiff.2 (hs.symm.trans hd)) hk

end Messages

/-! ## The scan for expired sensors -/

theorem find_of_expired {nowNs recoveryTimeoutNs : UInt64} {name : String}
    (h : r.expired nowNs recoveryTimeoutNs name = true) :
    ∃ info, r.find name = some info ∧ info.status = SensorHealth.degraded := by
  unfold expired at h
  cases hf : r.find name with
  | none => simp [hf] at h
  | some info =>
      rw [hf] at h
      dsimp only at h
      cases hs : info.degradationStartNs with
      | none => simp [hs] at h
      | some start =>
          rw [hs] at h
          simp only [Bool.and_eq_true, decide_eq_true_eq] at h
          exact ⟨info, rfl, h.1⟩

/-- The scan names the first expired sensor of its order. -/
theorem checkTimeouts_snd (nowNs recoveryTimeoutNs : UInt64) (order : List String) :
    (r.checkTimeouts nowNs recoveryTimeoutNs order).2 =
      (order.find? (r.expired nowNs recoveryTimeoutNs)).getD "" := by
  unfold checkTimeouts
  cases ho : order.find? (r.expired nowNs recoveryTimeoutNs) with
  | none => rfl
  | some name =>
      obtain ⟨info, hfind, -⟩ := r.find_of_expired (List.find?_some ho)
      simp [hfind]

/-- The scan leaves the records as they are, or marks one degraded sensor as
timed out. -/
theorem checkTimeouts_fst (nowNs recoveryTimeoutNs : UInt64) (order : List String) :
    (r.checkTimeouts nowNs recoveryTimeoutNs order).1 = r ∨
      ∃ name info, r.find name = some info ∧ info.status = SensorHealth.degraded ∧
        (r.checkTimeouts nowNs recoveryTimeoutNs order).1 =
          r.store name { info with timedOut := true, degradationStartNs := none } := by
  unfold checkTimeouts
  cases ho : order.find? (r.expired nowNs recoveryTimeoutNs) with
  | none => exact .inl rfl
  | some name =>
      obtain ⟨info, hfind, hd⟩ := r.find_of_expired (List.find?_some ho)
      exact .inr ⟨name, info, hfind, hd, by simp [hfind, store]⟩

variable {r}

theorem isAnyDegraded_of_checkTimeouts {nowNs recoveryTimeoutNs : UInt64}
    {order : List String}
    (h : (r.checkTimeouts nowNs recoveryTimeoutNs order).1.isAnyDegraded = true) :
    r.isAnyDegraded = true := by
  rcases r.checkTimeouts_fst nowNs recoveryTimeoutNs order
    with heq | ⟨name, info, hfind, hd, heq⟩
  · rwa [heq] at h
  · rw [heq] at h
    exact isAnyDegraded_of_store (fun _ => RecordsDegraded.isAnyDegraded ⟨info, hfind, hd⟩) h

/-- A timeout does not change the recorded status of any sensor. -/
theorem recordsDegraded_checkTimeouts (nowNs recoveryTimeoutNs : UInt64)
    (order : List String) {name : String} (h : r.RecordsDegraded name) :
    (r.checkTimeouts nowNs recoveryTimeoutNs order).1.RecordsDegraded name := by
  rcases r.checkTimeouts_fst nowNs recoveryTimeoutNs order
    with heq | ⟨expiredName, info, -, hd, heq⟩
  · rwa [heq]
  · rw [heq]
    by_cases hname : name = expiredName
    · subst hname
      exact ⟨_, find_store_self _, hd⟩
    · obtain ⟨old, hold, hdegraded⟩ := h
      exact ⟨old, (find_store_of_ne hname _).trans hold, hdegraded⟩

end SensorRecoveryManager

end SafetyCore
