import SafetyCore.Ros.SensorRecovery.Timeouts

/-!
# The withdrawal of a degradation

A degradation is reported when a sensor is recorded as degraded, and withdrawn when a
healthy message finds it so. A message of another status takes the sensor out of the
degradation too, and reports nothing; the healthy message after it finds nothing to withdraw.
-/

namespace SafetyCore

open Transition

namespace SensorRecoveryManager

/-- The calls of the manager. -/
inductive Call
  | processHealthMsg (name : String) (status : UInt8) (nowNs : UInt64)
  | checkTimeouts (scan : Scan)
  deriving DecidableEq, Repr

/-- The status that a message gives the sensor `name`. -/
def Call.statusOf (name : String) : Call → Option UInt8
  | .processHealthMsg sensor status _ => if sensor = name then some status else none
  | .checkTimeouts _ => none

/-- The manager driven by its calls. A message puts out the sensor it is about and the
transition that it returns. -/
def calls : Component SensorRecoveryManager Call (Option (String × HealthTransition)) where
  next r
    | .processHealthMsg name status nowNs => (r.processHealthMsg name status nowNs).1
    | .checkTimeouts scan => scans.next r scan
  output r
    | .processHealthMsg name status nowNs =>
        some (name, (r.processHealthMsg name status nowNs).2)
    | .checkTimeouts _ => none

/-- The transition of the sensor `name` that an output reports. -/
def reported (name : String) : Option (String × HealthTransition) → Option HealthTransition
  | some (sensor, transition) =>
      if sensor = name ∧ transition ≠ .kNone then some transition else none
  | none => none

def lastStatus (name : String) (es : List Call) : Option UInt8 :=
  lastValue (Call.statusOf name) es

def lastTransition (name : String) (es : List Call) : Option HealthTransition :=
  lastValue (reported name) (calls.outputs {} es)

instance (r : SensorRecoveryManager) (name : String) : Decidable (r.RecordsDegraded name) :=
  decidable_of_iff ((r.find name).any fun info => info.status = SensorHealth.degraded) <| by
    rw [RecordsDegraded]
    cases r.find name <;> simp

/-- The manager, read by whether its messages end a degradation of the sensor `name`, and
then by whether they are healthy. -/
def exits (name : String) : Component SensorRecoveryManager Call (Option Bool) where
  next := calls.next
  output r
    | .processHealthMsg sensor status _ =>
        if sensor = name ∧ r.RecordsDegraded name ∧ status ≠ SensorHealth.degraded then
          some (decide (status = SensorHealth.healthy))
        else none
    | .checkTimeouts _ => none

/-- Whether the last message that ended a degradation of the sensor was healthy. -/
def lastExit (name : String) (es : List Call) : Option Bool :=
  lastValue id ((exits name).outputs {} es)

/-- A sensor whose last message is healthy has its last degradation withdrawn. -/
def Withdrawn (name : String) (es : List Call) : Prop :=
  lastStatus name es = some SensorHealth.healthy →
    ∀ transition, lastTransition name es = some transition → transition = .kRecovered

variable {r : SensorRecoveryManager} {name : String} {status : UInt8} {nowNs : UInt64}

@[simp] theorem reported_kNone (name sensor : String) :
    reported name (some (sensor, .kNone)) = none := by
  simp [reported]

@[simp] theorem reported_kDegraded (name : String) :
    reported name (some (name, .kDegraded)) = some .kDegraded := by
  simp [reported]

@[simp] theorem reported_kRecovered (name : String) :
    reported name (some (name, .kRecovered)) = some .kRecovered := by
  simp [reported]

/-! ## One message -/

/-- A healthy message finds the sensor degraded. -/
theorem processHealthMsg_recovered (h : r.RecordsDegraded name) (nowNs : UInt64) :
    (r.processHealthMsg name SensorHealth.healthy nowNs).2 = .kRecovered := by
  obtain ⟨info, hfind, hd⟩ := h
  unfold processHealthMsg
  simp [hfind, hd, SensorHealth.healthy_ne_degraded, SensorHealth.healthy_ne_degraded.symm]

/-- A message that is not degraded reports nothing, unless it is healthy and finds the
sensor degraded. -/
theorem processHealthMsg_silent (hs : status ≠ SensorHealth.degraded)
    (h : r.RecordsDegraded name → status ≠ SensorHealth.healthy) (nowNs : UInt64) :
    (r.processHealthMsg name status nowNs).2 = .kNone := by
  unfold processHealthMsg
  cases hfind : r.find name with
  | none => simp [hs]
  | some info =>
      have hnot : info.status = SensorHealth.degraded → status ≠ SensorHealth.healthy :=
        fun hd => h ⟨info, hfind, hd⟩
      simp only [hs, decide_false, Bool.and_false, Bool.false_eq_true, if_false]
      split
      · rfl
      · rw [if_neg (by simpa using hnot)]
        split <;> rfl

/-- A message that is not degraded leaves its own status recorded. -/
theorem find_processHealthMsg (r : SensorRecoveryManager) (name : String)
    (hs : status ≠ SensorHealth.degraded) (nowNs : UInt64) :
    ∃ info, (r.processHealthMsg name status nowNs).1.find name = some info ∧
      info.status = status := by
  rcases r.processHealthMsg_cases name status nowNs with ⟨heq, hcase⟩ | ⟨info, hi, hstore, -⟩
  · rw [heq]
    exact hcase.resolve_left fun hignored => hs hignored.1
  · rw [hstore]
    exact ⟨info, find_store_self info, hi⟩

theorem not_recordsDegraded_processHealthMsg (r : SensorRecoveryManager) (name : String)
    (hs : status ≠ SensorHealth.degraded) (nowNs : UInt64) :
    ¬ (r.processHealthMsg name status nowNs).1.RecordsDegraded name := by
  rintro ⟨info, hfind, hd⟩
  obtain ⟨info', hfind', hs'⟩ := r.find_processHealthMsg name hs nowNs
  rw [hfind] at hfind'
  cases hfind'
  exact hs (hs'.symm.trans hd)

/-- What is recorded of a sensor depends on its record only. -/
theorem recordsDegraded_congr {r' : SensorRecoveryManager} (h : r'.find name = r.find name) :
    r'.RecordsDegraded name ↔ r.RecordsDegraded name := by
  rw [RecordsDegraded, RecordsDegraded, h]

/-- A scan changes no status. -/
theorem recordsDegraded_scan (r : SensorRecoveryManager) (scan : Scan) (name : String) :
    (scans.next r scan).RecordsDegraded name ↔ r.RecordsDegraded name := by
  refine ⟨fun h => ?_, recordsDegraded_checkTimeouts _ _ _⟩
  rcases r.checkTimeouts_fst scan.nowNs scan.recoveryTimeoutNs scan.order with heq |
    ⟨expiredName, info, hfind, hd, heq⟩
  · have hnext : scans.next r scan = r := heq
    rwa [hnext] at h
  · have hnext : scans.next r scan = r.store expiredName { info with
        timedOut := true, degradationStartNs := none } := heq
    by_cases hname : name = expiredName
    · subst hname
      exact ⟨info, hfind, hd⟩
    · rw [hnext] at h
      exact (recordsDegraded_congr (find_store_of_ne hname _)).1 h

/-! ## Whole runs -/

/-- What the calls so far say about the record of the sensor: while it is degraded, the last
report is the degradation; after that, the report of the last exit. -/
structure Tracks (name : String) (status : Option UInt8) (exit : Option Bool)
    (transition : Option HealthTransition) (r : SensorRecoveryManager) : Prop where
  healthy : status = some SensorHealth.healthy → ¬ r.RecordsDegraded name
  degraded : r.RecordsDegraded name → transition = some .kDegraded
  left : ¬ r.RecordsDegraded name →
    transition = exit.map fun healthy => if healthy then .kRecovered else .kDegraded

section Runs

variable {exit : Option Bool} {transition : Option HealthTransition}
  {last : Option UInt8}

/-- A call that reports nothing, ends no degradation and leaves the record as it is. -/
theorem Tracks.congr {r' : SensorRecoveryManager} (h : Tracks name last exit transition r)
    (hr : r'.RecordsDegraded name ↔ r.RecordsDegraded name) :
    Tracks name last exit transition r' :=
  ⟨fun hlast => hr.not.2 (h.healthy hlast), fun hd => h.degraded (hr.1 hd),
    fun hd => h.left (hr.not.1 hd)⟩

/-- A message that ends a degradation. -/
theorem Tracks.processHealthMsg_ends (h : Tracks name last exit transition r)
    (hr : r.RecordsDegraded name) (hs : status ≠ SensorHealth.degraded) (nowNs : UInt64) :
    Tracks name (some status) (some (decide (status = SensorHealth.healthy)))
      ((reported name (some (name, (r.processHealthMsg name status nowNs).2))).or transition)
      (r.processHealthMsg name status nowNs).1 := by
  have hafter := not_recordsDegraded_processHealthMsg r name hs nowNs
  refine ⟨fun _ => hafter, fun hd => absurd hd hafter, fun _ => ?_⟩
  by_cases hhealthy : status = SensorHealth.healthy
  · subst hhealthy
    simp [processHealthMsg_recovered hr]
  · rw [processHealthMsg_silent hs fun _ => hhealthy]
    simp [hhealthy, h.degraded hr]

theorem Tracks.processHealthMsg (h : Tracks name last exit transition r) (status : UInt8)
    (nowNs : UInt64) :
    Tracks name (some status)
      (((exits name).output r (.processHealthMsg name status nowNs)).or exit)
      ((reported name (calls.output r (.processHealthMsg name status nowNs))).or transition)
      (r.processHealthMsg name status nowNs).1 := by
  simp only [exits, calls, true_and]
  by_cases hs : status = SensorHealth.degraded
  · subst hs
    rw [if_neg (by simp), Option.none_or]
    -- the message repeats the degradation, is ignored after a timeout, or starts one
    rcases r.processHealthMsg_cases name SensorHealth.degraded nowNs with ⟨heq, -⟩ |
      ⟨info, hd, hstore, hreport⟩
    · rw [heq, reported_kNone, Option.none_or]
      exact ⟨nofun, h.degraded, h.left⟩
    · have hafter : (r.processHealthMsg name SensorHealth.degraded nowNs).1.RecordsDegraded
          name := by
        rw [hstore]
        exact ⟨info, find_store_self info, hd⟩
      rw [hreport.2 rfl, reported_kDegraded]
      exact ⟨nofun, fun _ => rfl, fun hnot => absurd hafter hnot⟩
  · by_cases hr : r.RecordsDegraded name
    · rw [if_pos ⟨hr, hs⟩]
      exact h.processHealthMsg_ends hr hs nowNs
    · have hafter := not_recordsDegraded_processHealthMsg r name hs nowNs
      rw [if_neg fun hboth => hr hboth.1, processHealthMsg_silent hs fun hd => absurd hd hr,
        reported_kNone, Option.none_or, Option.none_or]
      exact ⟨fun _ => hafter, fun hd => absurd hd hafter, fun _ => h.left hr⟩

theorem Tracks.next (h : Tracks name last exit transition r) (e : Call) :
    Tracks name ((e.statusOf name).or last) (((exits name).output r e).or exit)
      ((reported name (calls.output r e)).or transition) (calls.next r e) := by
  cases e with
  | processHealthMsg sensor status nowNs =>
      by_cases hname : sensor = name
      · subst hname
        rw [Call.statusOf, if_pos rfl]
        exact h.processHealthMsg status nowNs
      · have hfind : (r.processHealthMsg sensor status nowNs).1.find name = r.find name :=
          processHealthMsg_find_of_ne (Ne.symm hname)
        have hkeeps := h.congr (recordsDegraded_congr hfind)
        simpa [Call.statusOf, exits, calls, reported, hname] using hkeeps
  | checkTimeouts scan => exact h.congr (recordsDegraded_scan r scan name)

theorem calls_tracks (name : String) (es : List Call) :
    Tracks name (lastStatus name es) (lastExit name es) (lastTransition name es)
      (calls.run {} es) := by
  refine Component.run_history
    (I := fun es r =>
      Tracks name (lastStatus name es) (lastExit name es) (lastTransition name es) r)
    ⟨nofun, ?_, fun _ => rfl⟩ (fun es e h => ?_) es
  · rintro ⟨info, hfind, -⟩
    cases hfind
  · have hnext := h.next e
    rw [lastStatus, lastExit, lastTransition, Component.outputs_concat,
      Component.outputs_concat, lastValue_concat, lastValue_concat, lastValue_concat]
    exact hnext

end Runs

/-- For every sensor and run: the degradation of the sensor is withdrawn as it should be if
and only if the last message that ended one was healthy. -/
theorem withdrawn_iff (name : String) (es : List Call) :
    Withdrawn name es ↔
      (lastStatus name es = some SensorHealth.healthy → lastExit name es ≠ some false) := by
  have htracks := calls_tracks name es
  refine forall_congr' fun hlast => ?_
  rw [htracks.left (htracks.healthy hlast)]
  rcases lastExit name es with _ | _ | _ <;> simp

/-- A degradation that ends in a fault is not withdrawn by the healthy message after it. -/
theorem not_always_withdrawn : ¬ ∀ (name : String) (es : List Call), Withdrawn name es := by
  intro h
  have hfault := h "lidar"
    [.processHealthMsg "lidar" SensorHealth.degraded 1,
      .processHealthMsg "lidar" SensorHealth.fault 2,
      .processHealthMsg "lidar" SensorHealth.healthy 3] (by decide) .kDegraded (by decide)
  cases hfault

end SensorRecoveryManager

end SafetyCore
