import SafetyCore.Ros.SupervisorNode.DegradedLimit
import SafetyCore.Ros.SupervisorNode.FaultLatch
import SafetyCore.Ros.SupervisorNode.SummaryFault

/-!
# Why the supervisor latches a fault

A latched fault was raised by a callback that has not been cleared since, an emergency or a tick
with one of four reasons. What a tick judges (the last odometry stamp, the summary, the sensors
recorded as degraded, the last clock sample) was brought by the last callbacks of their kind before
it, so the reason is found in the events of the run.
-/

namespace SafetyCore

open Transition

namespace SensorRecoveryManager

/-- The time since which a sensor is degraded, as its record has it. -/
def degradedSince (r : SensorRecoveryManager) (name : String) : Option UInt64 :=
  (r.find name).bind (·.degradationStartNs)

theorem degradedSince_store (r : SensorRecoveryManager) (name other : String)
    (info : SensorRecoveryInfo) :
    (r.store name info).degradedSince other =
      if other = name then info.degradationStartNs else r.degradedSince other := by
  unfold degradedSince
  split
  next hname =>
    rw [hname, find_store_self]
    rfl
  next hname => rw [find_store_of_ne hname]

/-- A message starts the time of its own sensor, and only by reporting it degraded. -/
theorem degradedSince_processHealthMsg {r : SensorRecoveryManager} {name other : String}
    {status : UInt8} {now start : UInt64}
    (h : (r.processHealthMsg name status now).1.degradedSince other = some start) :
    r.degradedSince other = some start ∨
      other = name ∧ status = SensorHealth.degraded ∧ start = now := by
  by_cases hname : other = name
  · subst hname
    unfold processHealthMsg at h
    cases hfind : r.find other with
    | none =>
        have hstore : ∀ info, r.emplace other info = r.store other info := by
          simp [store, hfind]
        simp only [hfind, hstore] at h
        split at h
        next hd =>
          rw [degradedSince_store, if_pos rfl] at h
          exact .inr ⟨rfl, hd, (Option.some.inj h).symm⟩
        next =>
          rw [degradedSince_store, if_pos rfl] at h
          cases h
    | some info =>
        have hstore : ∀ info, r.assign other info = r.store other info := by
          simp [store, hfind]
        have hold : r.degradedSince other = info.degradationStartNs := by
          rw [degradedSince, hfind]
          rfl
        simp only [hfind, hstore] at h
        split_ifs at h with _ _ hd
        · exact .inl h
        · exact .inl h
        · rw [degradedSince_store, if_pos rfl] at h
          exact .inr ⟨rfl, hd, (Option.some.inj h).symm⟩
        all_goals rw [degradedSince_store, if_pos rfl] at h
        · cases h
        · cases h
        · exact .inl (hold.trans h)
  · rw [degradedSince, processHealthMsg_find_of_ne hname] at h
    exact .inl h

theorem degradedSince_checkTimeouts {r : SensorRecoveryManager} {name : String}
    {now timeout start : UInt64} {order : List String}
    (h : (r.checkTimeouts now timeout order).1.degradedSince name = some start) :
    r.degradedSince name = some start := by
  rcases r.checkTimeouts_fst now timeout order with heq | ⟨expiredName, info, -, -, heq⟩
  · rwa [heq] at h
  · rw [heq, degradedSince_store] at h
    split at h
    · cases h
    · exact h

theorem degradedSince_congr {r r' : SensorRecoveryManager}
    (h : r'.sensorStates = r.sensorStates) (name : String) :
    r'.degradedSince name = r.degradedSince name := by
  rw [degradedSince, degradedSince, find, find, h]

/-- What expires has been degraded for longer than the timeout. -/
theorem degradedSince_of_expired {r : SensorRecoveryManager} {now timeout : UInt64}
    {name : String} (h : r.expired now timeout name = true) :
    ∃ start, r.degradedSince name = some start ∧ timeout < now - start := by
  unfold expired at h
  cases hfind : r.find name with
  | none => simp [hfind] at h
  | some info =>
      cases hstart : info.degradationStartNs with
      | none => simp [hfind, hstart] at h
      | some start =>
          simp only [hfind, hstart, Bool.and_eq_true, decide_eq_true_eq] at h
          refine ⟨start, ?_, h.2⟩
          rw [degradedSince, hfind]
          exact hstart

end SensorRecoveryManager

namespace SafetySupervisorNode

section Raising

variable {α : Type*} [Zero α] [Add α] [Sub α] [Mul α] [Div α] [OfScientific α] [NatCast α]
  [LE α] (p : Params α) {n : SafetySupervisorNode α}

/-- The callback latches a fault, whether or not one is latched. -/
def RaisesFault (n : SafetySupervisorNode α) : Event → Prop
  | .envelope zone => SafetyZone.ofRaw zone = .emergency
  | .timerTick now nowLocalization nowHealth order =>
      LatchesInTick p n now nowLocalization nowHealth order
  | _ => False

omit [Add α] [Sub α] [Mul α] [Div α] [OfScientific α] [NatCast α] in
theorem onEnvelope_latchedFault (zone : UInt8) :
    (n.onEnvelope p zone).machine.latchedFault = true ↔
      n.machine.latchedFault = true ∨ SafetyZone.ofRaw zone = .emergency := by
  unfold onEnvelope
  generalize SafetyZone.ofRaw zone = newZone
  dsimp only
  split
  all_goals
    unfold handleZoneTransition
    cases newZone with
    | clear | warning | protective =>
        dsimp only
        split <;> simp [ModeStateMachine.requestObstacleHold]
    | emergency => simp
    | other => simp

/-- After a callback a fault is latched if the callback raises it, or if it was latched before and
the callback is not the one that clears it. -/
theorem next_latchedFault (e : Event) (hsettled : n.machine.Settled) :
    ((component p).next n e).machine.latchedFault = true ↔
      RaisesFault p n e ∨ n.machine.latchedFault = true ∧ e ≠ .clearFault := by
  cases e with
  | envelope zone =>
      refine (onEnvelope_latchedFault p zone).trans ?_
      simp [RaisesFault, or_comm]
  | odom sec nanosec => simp [RaisesFault, component, onOdom]
  | sensorHealth sensorName status now nowRecovered =>
      obtain ⟨_, _, _, hmachine, heq⟩ := n.onSensorHealth_frame sensorName status now nowRecovered
      change (n.onSensorHealth sensorName status now nowRecovered).machine.latchedFault = true ↔ _
      rw [heq]
      rcases hmachine with rfl | ⟨-, rfl⟩ | ⟨-, rfl⟩ <;> simp [RaisesFault]
  | clearFault =>
      change n.onClearFault.1.machine.latchedFault = true ↔ _
      cases hl : n.machine.latchedFault with
      | true => simp [RaisesFault, onClearFault_of_latched n hl]
      | false => simp [RaisesFault, onClearFault_of_not_latched n hl, ModeStateMachine.record, hl]
  | timerTick now nowLocalization nowHealth order =>
      refine (timerTick_latchedFault p now nowLocalization nowHealth order hsettled).trans ?_
      simp [RaisesFault, or_comm]

/-- A fault is latched after a run exactly if a callback raised one and no later one cleared
it. -/
theorem run_latchedFault_iff (es : List Event) :
    ((component p).run (initial p) es).machine.latchedFault = true ↔
      ∃ pre e post, es = pre ++ e :: post ∧
        RaisesFault p ((component p).run (initial p) pre) e ∧ ∀ e' ∈ post, e' ≠ .clearFault := by
  refine (settled_preserved p).latch_run_iff (fun n => n.machine.latchedFault = true)
    (RaisesFault p) (· = .clearFault) (fun n e hsettled => next_latchedFault p e hsettled)
    (settled_initial p) ?_ es
  change ¬ initialMachine.latchedFault = true
  decide

end Raising

/-! ## Where the data of a tick come from -/

/-- The stamp that the callback for odometry computes. -/
def odomStampNs (sec : Int32) (nanosec : UInt32) : UInt64 :=
  sec.toInt64.toUInt64 * 1000000000 + nanosec.toUInt64

/-- What the callback writes to the last odometry stamp. -/
def Event.lastOdom : Event → Option (Option UInt64)
  | .odom sec nanosec => some (some (odomStampNs sec nanosec))
  | _ => none

/-- What the callback writes to the last summary. -/
def Event.summary : Event → Option (UInt8 × Option UInt64)
  | .sensorHealth sensorName status now _ =>
      if sensorName = "all" then some (status, some now) else none
  | _ => none

/-- What the callback writes to the last clock sample. -/
def Event.clockSample : Event → Option (Bool × UInt64)
  | .timerTick now _ _ _ => some (true, now)
  | _ => none

/-- The last summary and the clock reading of its callback. -/
def lastSummary {α : Type*} (n : SafetySupervisorNode α) : UInt8 × Option UInt64 :=
  (n.recoveryMgr.worstSensorStatus, n.recoveryMgr.lastSensorHealthTimeNs)

/-- Whether there is a clock sample, and the last one. -/
def lastSample {α : Type*} (n : SafetySupervisorNode α) : Bool × UInt64 :=
  (n.supervisor.hasClockSample, n.supervisor.lastClockNs)

section Provenance

variable {α : Type*} [Zero α] [Add α] [Sub α] [Mul α] [Div α] [OfScientific α] [NatCast α]
  [LE α] (p : Params α) (n : SafetySupervisorNode α)

theorem next_lastOdomTimeNs (e : Event) :
    ((component p).next n e).lastOdomTimeNs = e.lastOdom.getD n.lastOdomTimeNs := by
  cases e with
  | envelope zone =>
      obtain ⟨_, _, heq⟩ := onEnvelope_frame p n zone
      change (n.onEnvelope p zone).lastOdomTimeNs = n.lastOdomTimeNs
      rw [heq]
  | odom sec nanosec => rfl
  | sensorHealth sensorName status now nowRecovered =>
      obtain ⟨_, _, _, -, heq⟩ := n.onSensorHealth_frame sensorName status now nowRecovered
      change (n.onSensorHealth sensorName status now nowRecovered).lastOdomTimeNs = _
      rw [heq]
      rfl
  | clearFault =>
      obtain ⟨_, heq⟩ := n.onClearFault_frame
      change n.onClearFault.1.lastOdomTimeNs = n.lastOdomTimeNs
      rw [heq]
  | timerTick now nowLocalization nowHealth order =>
      obtain ⟨_, hloc⟩ := checkLocalizationStaleness_frame p n nowLocalization
      obtain ⟨_, _, _, hhealth⟩ := checkSensorHealth_frame p
        (n.checkLocalizationStaleness p nowLocalization) nowHealth
      obtain ⟨_, _, _, htimeouts, -⟩ := checkSensorRecoveryTimeouts_frame p
        ((n.checkLocalizationStaleness p nowLocalization).checkSensorHealth p nowHealth) now order
      change (checkSensorRecoveryTimeouts _ _ _ _).lastOdomTimeNs = n.lastOdomTimeNs
      rw [htimeouts, hhealth, hloc]

theorem next_lastSummary (e : Event) :
    ((component p).next n e).lastSummary = e.summary.getD n.lastSummary := by
  by_cases he : e.IsSummary
  · cases e with
    | sensorHealth sensorName status now nowRecovered =>
        obtain rfl : sensorName = "all" := he
        rfl
    | _ => cases he
  · obtain ⟨hworst, hlast⟩ := summaryIs_next p (n := n) he ⟨rfl, rfl⟩
    have hnone : e.summary = none := by
      cases e with
      | sensorHealth sensorName status now nowRecovered => exact if_neg he
      | _ => rfl
    rw [hnone, lastSummary, hworst, hlast]
    rfl

omit [Zero α] [Add α] [Sub α] [Mul α] [Div α] [OfScientific α] [NatCast α] [LE α] in
theorem observeClockSample_lastSample (now : UInt64) :
    (n.observeClockSample now).lastSample = (true, now) := by
  unfold lastSample observeClockSample SafetySupervisor.observeClockSample
  split
  · rfl
  next h =>
    rw [Bool.not_eq_true', Bool.not_eq_false] at h
    split
    · exact congrArg (·, now) h
    · exact congrArg (·, now) h

theorem next_lastSample (e : Event) :
    ((component p).next n e).lastSample = e.clockSample.getD n.lastSample := by
  cases e with
  | envelope zone =>
      obtain ⟨_, _, heq⟩ := onEnvelope_frame p n zone
      change (n.onEnvelope p zone).lastSample = _
      rw [heq]
      rfl
  | odom sec nanosec => rfl
  | sensorHealth sensorName status now nowRecovered =>
      obtain ⟨_, _, _, -, heq⟩ := n.onSensorHealth_frame sensorName status now nowRecovered
      change (n.onSensorHealth sensorName status now nowRecovered).lastSample = _
      rw [heq]
      rfl
  | clearFault =>
      obtain ⟨_, heq⟩ := n.onClearFault_frame
      change n.onClearFault.1.lastSample = _
      rw [heq]
      rfl
  | timerTick now nowLocalization nowHealth order => exact observeClockSample_lastSample _ now

variable {p n}

/-- A sensor is degraded since a message that has reported it so. -/
theorem exists_degraded_of_degradedSince (es : List Event) {name : String} {start : UInt64}
    (h : ((component p).run (initial p) es).recoveryMgr.degradedSince name = some start) :
    name ≠ "all" ∧
      ∃ nowRecovered, .sensorHealth name SensorHealth.degraded start nowRecovered ∈ es := by
  revert name start
  refine Component.run_history (C := component p)
    (I := fun es n => ∀ {name start}, n.recoveryMgr.degradedSince name = some start →
      name ≠ "all" ∧
        ∃ nowRecovered, .sensorHealth name SensorHealth.degraded start nowRecovered ∈ es) ?_ ?_ es
  · intro name start h
    cases h
  · intro es e ih name start h
    have hkept : ((component p).run (initial p) es).recoveryMgr.degradedSince name =
        some start → name ≠ "all" ∧ ∃ nowRecovered,
          .sensorHealth name SensorHealth.degraded start nowRecovered ∈ es ++ [e] := by
      intro hold
      obtain ⟨hname, nowRecovered, hmem⟩ := ih hold
      exact ⟨hname, nowRecovered, List.mem_append_left _ hmem⟩
    generalize (component p).run (initial p) es = n at h hkept
    cases e with
    | envelope zone =>
        obtain ⟨_, _, heq⟩ := onEnvelope_frame p n zone
        change (n.onEnvelope p zone).recoveryMgr.degradedSince name = _ at h
        rw [heq] at h
        exact hkept h
    | odom sec nanosec => exact hkept h
    | sensorHealth sensorName status now nowRecovered =>
        change (n.onSensorHealth sensorName status now nowRecovered).recoveryMgr.degradedSince
          name = _ at h
        by_cases hall : sensorName = "all"
        · unfold onSensorHealth at h
          rw [if_pos hall] at h
          exact hkept h
        · rw [SensorRecoveryManager.degradedSince_congr (onSensorHealth_sensorStates hall status
            now nowRecovered)] at h
          rcases SensorRecoveryManager.degradedSince_processHealthMsg h with
            hold | ⟨rfl, rfl, rfl⟩
          · exact hkept hold
          · exact ⟨hall, nowRecovered, by simp⟩
    | clearFault =>
        obtain ⟨_, heq⟩ := n.onClearFault_frame
        change n.onClearFault.1.recoveryMgr.degradedSince name = _ at h
        rw [heq] at h
        exact hkept h
    | timerTick now nowLocalization nowHealth order =>
        obtain ⟨r, hr, hstates⟩ := checked_sensorStates p n now nowLocalization nowHealth order
        change (n.checked p now nowLocalization nowHealth order).recoveryMgr.degradedSince
          name = _ at h
        refine hkept ?_
        rw [← SensorRecoveryManager.degradedSince_congr hr]
        rcases hstates with hstates | hstates
        · rwa [SensorRecoveryManager.degradedSince_congr hstates] at h
        · rw [SensorRecoveryManager.degradedSince_congr hstates] at h
          exact SensorRecoveryManager.degradedSince_checkTimeouts h

end Provenance

/-! ## The reasons -/

section Reasons

variable {α : Type*} [Zero α] [Add α] [Sub α] [Mul α] [Div α] [OfScientific α] [NatCast α]
  [LE α]

/-- Why the callback latches a fault after the callbacks `es`. What it judges is the last of its
kind that they have brought. -/
inductive FaultReason (p : Params α) (es : List Event) : Event → Prop
  | emergency {zone : UInt8} (h : SafetyZone.ofRaw zone = .emergency) :
      FaultReason p es (.envelope zone)
  | localization {pre post : List Event} {sec : Int32} {nanosec : UInt32}
      {now nowLocalization nowHealth : UInt64} {order : List String}
      (hodom : es = pre ++ .odom sec nanosec :: post) (hlast : ∀ e ∈ post, e.lastOdom = none)
      (hpos : p.localizationTimeoutNs ≠ 0)
      (hlt : p.localizationTimeoutNs <
        TimeUtils.calculateAgeNs (odomStampNs sec nanosec) nowLocalization)
      (hle : 2 * p.localizationTimeoutNs ≤
        TimeUtils.calculateAgeNs (odomStampNs sec nanosec) nowLocalization) :
      FaultReason p es (.timerTick now nowLocalization nowHealth order)
  | sensorFault {pre post : List Event} {t tRecovered now nowLocalization nowHealth : UInt64}
      {order : List String}
      (hsummary : es = pre ++ .sensorHealth "all" SensorHealth.fault t tRecovered :: post)
      (hlast : ∀ e ∈ post, e.summary = none)
      (hfresh : TimeUtils.isStale t nowHealth p.sensorTimeoutNs = false) :
      FaultReason p es (.timerTick now nowLocalization nowHealth order)
  | recoveryTimeout {name : String} {t tRecovered now nowLocalization nowHealth : UInt64}
      {order : List String} (hname : name ≠ "all")
      (hdegraded : .sensorHealth name SensorHealth.degraded t tRecovered ∈ es)
      (hrecord : ((component p).run (initial p) es).recoveryMgr.degradedSince name = some t)
      (hlate : p.recoveryTimeoutNs < now - t) :
      FaultReason p es (.timerTick now nowLocalization nowHealth order)
  | clockRegression {pre post : List Event}
      {before beforeLocalization beforeHealth now nowLocalization nowHealth : UInt64}
      {beforeOrder order : List String}
      (hsample : es = pre ++
        .timerTick before beforeLocalization beforeHealth beforeOrder :: post)
      (hlast : ∀ e ∈ post, e.clockSample = none) (hlt : now < before) :
      FaultReason p es (.timerTick now nowLocalization nowHealth order)

variable {p : Params α} {es : List Event}

theorem faultReason_of_localizationCritical {now nowLocalization nowHealth : UInt64}
    {order : List String}
    (h : LocalizationCritical p ((component p).run (initial p) es) nowLocalization) :
    FaultReason p es (.timerTick now nowLocalization nowHealth order) := by
  obtain ⟨hpos, stamp, hstamp, hlt, hle⟩ := h
  rcases Component.run_part_cases (C := component p) lastOdomTimeNs Event.lastOdom
    (next_lastOdomTimeNs p) (initial p) es with hinit | ⟨pre, e, post, hes, he, hlast⟩
  · cases hinit.symm.trans hstamp
  · rw [hstamp] at he
    cases e with
    | odom sec nanosec =>
        cases he
        exact .localization hes hlast hpos hlt hle
    | _ => cases he

theorem faultReason_of_sensorFault {now nowLocalization nowHealth : UInt64} {order : List String}
    (h : SensorFault p ((component p).run (initial p) es) nowHealth) :
    FaultReason p es (.timerTick now nowLocalization nowHealth order) := by
  obtain ⟨⟨t, ht, hfresh⟩, hfault⟩ := h
  have hsummary : ((component p).run (initial p) es).lastSummary =
      (SensorHealth.fault, some t) := by
    rw [lastSummary, hfault, ht]
  rcases Component.run_part_cases (C := component p) lastSummary Event.summary
    (next_lastSummary p) (initial p) es with hinit | ⟨pre, e, post, hes, he, hlast⟩
  · rw [hsummary] at hinit
    cases hinit
  · rw [hsummary] at he
    cases e with
    | sensorHealth sensorName status now' nowRecovered =>
        rw [Event.summary] at he
        split at he
        next hall =>
          cases he
          subst hall
          exact .sensorFault hes hlast hfresh
        next => cases he
    | _ => cases he

theorem faultReason_of_recoveryTimeout {now nowLocalization nowHealth : UInt64}
    {order : List String}
    (h : RecoveryTimeout p ((component p).run (initial p) es) now order) :
    FaultReason p es (.timerTick now nowLocalization nowHealth order) := by
  unfold RecoveryTimeout at h
  cases hfound : order.find?
      (((component p).run (initial p) es).recoveryMgr.expired now p.recoveryTimeoutNs) with
  | none =>
      rw [hfound] at h
      exact absurd rfl h
  | some name =>
      obtain ⟨start, hstart, hlate⟩ :=
        SensorRecoveryManager.degradedSince_of_expired (List.find?_some hfound)
      obtain ⟨hname, nowRecovered, hmem⟩ := exists_degraded_of_degradedSince es hstart
      exact .recoveryTimeout hname hmem hstart hlate

theorem faultReason_of_clockRegression {now nowLocalization nowHealth : UInt64}
    {order : List String} (h : ClockRegression ((component p).run (initial p) es) now) :
    FaultReason p es (.timerTick now nowLocalization nowHealth order) := by
  obtain ⟨hsample, hlt⟩ := h
  rcases Component.run_part_cases (C := component p) lastSample Event.clockSample
    (next_lastSample p) (initial p) es with hinit | ⟨pre, e, post, hes, he, hlast⟩
  · cases hsample.symm.trans (congrArg Prod.fst hinit)
  · cases e with
    | timerTick before beforeLocalization beforeHealth beforeOrder =>
        refine .clockRegression hes hlast ?_
        have hbefore : before =
            ((component p).run (initial p) es).supervisor.lastClockNs :=
          congrArg Prod.snd (Option.some.inj he)
        rwa [hbefore]
    | _ => cases he

/-- Whatever raises a fault after a run has its reason in the callbacks of the run. -/
theorem faultReason_of_raisesFault {e : Event}
    (h : RaisesFault p ((component p).run (initial p) es) e) : FaultReason p es e := by
  cases e with
  | envelope zone => exact .emergency h
  | timerTick now nowLocalization nowHealth order =>
      rcases h with h | h | h | h
      · exact faultReason_of_localizationCritical h
      · exact faultReason_of_sensorFault h
      · exact faultReason_of_recoveryTimeout h
      · exact faultReason_of_clockRegression h
  | _ => exact h.elim

end Reasons

end SafetySupervisorNode

end SafetyCore
