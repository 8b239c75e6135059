import Mathlib.Data.Rat.Floor
import Mathlib.Tactic.NormNum
import SafetyCore.Ros.SensorMonitor

/-!
# The summary of the sensors

The summary is the largest of the four statuses as a number, and the smallest number is the
status of a sensor that has sent nothing. So a healthy summary says that every sensor that
has sent something is healthy; of a sensor that never started it says nothing.
-/

namespace SafetyCore

open Arithmetic Transition

variable {α : Type*} [Zero α] [Sub α] [Mul α] [Div α] [OfScientific α] [NatCast α]
  [LT α] [DecidableLT α] [LE α] [DecidableLE α]

namespace SensorTracker

/-- The rate reaches the threshold, and the data is younger than two expected periods. -/
structure MeetsHealthy (params : SensorMonitorParams α) (tracker : SensorTracker α)
    (nowNs : UInt64) : Prop where
  rate : params.healthyThreshold ≤ tracker.rateRatio params
  age : TimeUtils.nanosecondsToSeconds
      (TimeUtils.calculateAgeNs tracker.lastMsgTimeNs nowNs) < 2.0 * tracker.expectedPeriodS

variable {params : SensorMonitorParams α} {tracker : SensorTracker α} {nowNs : UInt64}

/-! ## One sensor -/

omit [Sub α] in
theorem classify_cases (params : SensorMonitorParams α) (tracker : SensorTracker α)
    (dataAgeS : α) :
    ((tracker.classify params dataAgeS).1 = SensorHealth.healthy ∧
        params.healthyThreshold ≤ tracker.rateRatio params ∧
        dataAgeS < 2.0 * tracker.expectedPeriodS) ∨
      ((tracker.classify params dataAgeS).1 ≠ SensorHealth.healthy ∧
        (tracker.classify params dataAgeS).1 ≠ SensorHealth.unknown ∧
        ¬ (params.healthyThreshold ≤ tracker.rateRatio params ∧
          dataAgeS < 2.0 * tracker.expectedPeriodS)) := by
  unfold classify
  dsimp only
  split
  case isTrue hhealthy =>
    rw [Bool.and_eq_true, decide_eq_true_eq, decide_eq_true_eq] at hhealthy
    exact .inl ⟨rfl, hhealthy⟩
  case isFalse hnot =>
    rw [Bool.and_eq_true, decide_eq_true_eq, decide_eq_true_eq] at hnot
    refine .inr ⟨?_, ?_, hnot⟩
    · split
      · exact SensorHealth.healthy_ne_degraded.symm
      · split <;> exact SensorHealth.healthy_ne_fault.symm
    · split
      · exact SensorHealth.unknown_ne_degraded.symm
      · split <;> exact SensorHealth.unknown_ne_fault.symm

theorem buildSensorMsg_sensorName (params : SensorMonitorParams α)
    (tracker : SensorTracker α) (nowNs : UInt64) :
    (tracker.buildSensorMsg params nowNs).sensorName = tracker.sensorName := by
  unfold buildSensorMsg
  split <;> rfl

theorem status_eq_unknown_iff :
    (tracker.buildSensorMsg params nowNs).status = SensorHealth.unknown ↔
      tracker.lastMsgTimeNs = 0 := by
  unfold buildSensorMsg
  split
  case isTrue hzero => exact iff_of_true rfl hzero
  case isFalse hne =>
    refine iff_of_false (fun hunknown => ?_) hne
    rcases classify_cases params tracker (TimeUtils.nanosecondsToSeconds
      (TimeUtils.calculateAgeNs tracker.lastMsgTimeNs nowNs)) with ⟨hstatus, -⟩ | ⟨-, hnot, -⟩
    · exact absurd (hunknown.symm.trans hstatus) SensorHealth.unknown_ne_healthy
    · exact hnot hunknown

theorem status_eq_healthy_iff :
    (tracker.buildSensorMsg params nowNs).status = SensorHealth.healthy ↔
      tracker.lastMsgTimeNs ≠ 0 ∧ MeetsHealthy params tracker nowNs := by
  unfold buildSensorMsg
  split
  case isTrue hzero =>
    exact iff_of_false SensorHealth.unknown_ne_healthy fun hboth => hboth.1 hzero
  case isFalse hne =>
    rcases classify_cases params tracker (TimeUtils.nanosecondsToSeconds
        (TimeUtils.calculateAgeNs tracker.lastMsgTimeNs nowNs)) with
      ⟨hstatus, hrate, hage⟩ | ⟨hstatus, -, hnot⟩
    · exact iff_of_true hstatus ⟨hne, hrate, hage⟩
    · exact iff_of_false hstatus fun hboth => hnot ⟨hboth.2.rate, hboth.2.age⟩

end SensorTracker

namespace SensorMonitorNode

variable {n : SensorMonitorNode α} {nowNs : UInt64}

/-! ## The fold of the statuses -/

theorem le_foldl_evaluateTracker (n : SensorMonitorNode α) (nowNs : UInt64)
    (sensors : List Sensor) (worst : UInt8 × String) :
    worst.1 ≤ (sensors.foldl (n.evaluateTracker nowNs) worst).1 ∧
      ∀ sensor ∈ sensors, (n.sensorMsg nowNs sensor).status ≤
        (sensors.foldl (n.evaluateTracker nowNs) worst).1 := by
  induction sensors generalizing worst with
  | nil => exact ⟨UInt8.le_refl _, nofun⟩
  | cons sensor sensors ih =>
      obtain ⟨hworst, hsensors⟩ := ih (n.evaluateTracker nowNs worst sensor)
      have hstep : worst.1 ≤ (n.evaluateTracker nowNs worst sensor).1 ∧
          (n.sensorMsg nowNs sensor).status ≤ (n.evaluateTracker nowNs worst sensor).1 := by
        unfold evaluateTracker
        dsimp only
        split
        case isTrue hgt => exact ⟨UInt8.le_of_lt hgt, UInt8.le_refl _⟩
        case isFalse hle => exact ⟨UInt8.le_refl _, UInt8.not_lt.1 hle⟩
      refine ⟨UInt8.le_trans hstep.1 hworst, List.forall_mem_cons.2 ⟨?_, hsensors⟩⟩
      exact UInt8.le_trans hstep.2 hworst

theorem foldl_evaluateTracker_mem (n : SensorMonitorNode α) (nowNs : UInt64)
    (sensors : List Sensor) (worst : UInt8 × String) :
    (sensors.foldl (n.evaluateTracker nowNs) worst).1 = worst.1 ∨
      ∃ sensor ∈ sensors, (sensors.foldl (n.evaluateTracker nowNs) worst).1 =
        (n.sensorMsg nowNs sensor).status := by
  induction sensors generalizing worst with
  | nil => exact .inl rfl
  | cons sensor sensors ih =>
      rcases ih (n.evaluateTracker nowNs worst sensor) with heq | ⟨other, hmem, heq⟩
      · rw [List.foldl_cons, heq]
        unfold evaluateTracker
        dsimp only
        split
        · exact .inr ⟨sensor, List.mem_cons_self, rfl⟩
        · exact .inl rfl
      · exact .inr ⟨other, List.mem_cons_of_mem _ hmem, heq⟩

theorem le_healthy_iff (status : UInt8) :
    status ≤ SensorHealth.healthy ↔
      status = SensorHealth.unknown ∨ status = SensorHealth.healthy := by
  rw [UInt8.le_iff_toNat_le, ← UInt8.toNat_inj, ← UInt8.toNat_inj]
  have hunknown : SensorHealth.unknown.toNat = 0 := rfl
  have hhealthy : SensorHealth.healthy.toNat = 1 := rfl
  omega

/-- The summary is healthy if a sensor is, and none is worse. -/
theorem summaryMsg_healthy_iff (n : SensorMonitorNode α) (nowNs : UInt64) :
    (n.summaryMsg nowNs).status = SensorHealth.healthy ↔
      (∃ sensor, (n.sensorMsg nowNs sensor).status = SensorHealth.healthy) ∧
        ∀ sensor, (n.sensorMsg nowNs sensor).status = SensorHealth.unknown ∨
          (n.sensorMsg nowNs sensor).status = SensorHealth.healthy := by
  have hle := (n.le_foldl_evaluateTracker nowNs Sensor.all (SensorHealth.unknown, "")).2
  have hmem := n.foldl_evaluateTracker_mem nowNs Sensor.all (SensorHealth.unknown, "")
  change (n.worstStatus nowNs).1 = SensorHealth.healthy ↔ _
  rw [← worstStatus] at hle hmem
  constructor
  · intro hhealthy
    rw [hhealthy] at hle hmem
    refine ⟨?_, fun sensor => (le_healthy_iff _).1 (hle sensor sensor.mem_all)⟩
    rcases hmem with hunknown | ⟨sensor, -, heq⟩
    · exact absurd hunknown.symm SensorHealth.unknown_ne_healthy
    · exact ⟨sensor, heq.symm⟩
  · rintro ⟨⟨sensor, hsensor⟩, hall⟩
    have hge := hle sensor sensor.mem_all
    rw [hsensor] at hge
    have hnot : ¬ SensorHealth.healthy ≤ SensorHealth.unknown := by decide
    rcases hmem with hunknown | ⟨other, -, heq⟩
    · rw [hunknown] at hge
      exact absurd hge hnot
    · rcases hall other with hunknown | hhealthy
      · rw [heq, hunknown] at hge
        exact absurd hge hnot
      · exact heq.trans hhealthy

/-! ## One tick -/

variable [Casts α]

/-- At a tick the sensor is classified as healthy. -/
structure ClassifiedHealthy (n : SensorMonitorNode α) (nowNs : UInt64) (sensor : Sensor) :
    Prop where
  status : ((n.prune nowNs).sensorMsg nowNs sensor).status = SensorHealth.healthy
  meets : ((n.prune nowNs).trackers sensor).MeetsHealthy n.params nowNs

/-- No sensor that has sent nothing stands beside healthy ones: all have sent something, or
none has, or one that has does not meet the thresholds. -/
def AdmitsSummary (n : SensorMonitorNode α) (nowNs : UInt64) : Prop :=
  (∀ sensor, (n.trackers sensor).lastMsgTimeNs ≠ 0) ∨
    (∀ sensor, (n.trackers sensor).lastMsgTimeNs = 0) ∨
    ∃ sensor, (n.trackers sensor).lastMsgTimeNs ≠ 0 ∧
      ¬ ((n.prune nowNs).trackers sensor).MeetsHealthy n.params nowNs

theorem sensorMsg_unknown_iff (n : SensorMonitorNode α) (nowNs : UInt64) (sensor : Sensor) :
    ((n.prune nowNs).sensorMsg nowNs sensor).status = SensorHealth.unknown ↔
      (n.trackers sensor).lastMsgTimeNs = 0 :=
  SensorTracker.status_eq_unknown_iff

theorem sensorMsg_healthy_iff (n : SensorMonitorNode α) (nowNs : UInt64) (sensor : Sensor) :
    ((n.prune nowNs).sensorMsg nowNs sensor).status = SensorHealth.healthy ↔
      (n.trackers sensor).lastMsgTimeNs ≠ 0 ∧
        ((n.prune nowNs).trackers sensor).MeetsHealthy n.params nowNs :=
  SensorTracker.status_eq_healthy_iff

theorem summary_iff_admits (n : SensorMonitorNode α) (nowNs : UInt64) :
    (((n.prune nowNs).summaryMsg nowNs).status = SensorHealth.healthy →
        ∀ sensor, n.ClassifiedHealthy nowNs sensor) ↔ n.AdmitsSummary nowNs := by
  rw [summaryMsg_healthy_iff]
  simp only [sensorMsg_healthy_iff, sensorMsg_unknown_iff]
  constructor
  · intro h
    by_contra hnot
    rw [AdmitsSummary, not_or, not_or, not_forall, not_forall, not_exists] at hnot
    obtain ⟨⟨silent, hsilent⟩, ⟨sending, hsending⟩, hmeets⟩ := hnot
    have hall : ∀ sensor, (n.trackers sensor).lastMsgTimeNs ≠ 0 →
        ((n.prune nowNs).trackers sensor).MeetsHealthy n.params nowNs := fun sensor hne =>
      by_contra fun hfails => hmeets sensor ⟨hne, hfails⟩
    have hhealthy := h ⟨⟨sending, hsending, hall sending hsending⟩, fun sensor =>
      or_iff_not_imp_left.2 fun hne => ⟨hne, hall sensor hne⟩⟩ silent
    exact hsilent ((n.sensorMsg_healthy_iff nowNs silent).1 hhealthy.status).1
  · rintro h ⟨⟨sending, hsending, -⟩, hall⟩
    have hsent : ∀ sensor, (n.trackers sensor).lastMsgTimeNs ≠ 0 := by
      rcases h with hsent | hsilent | ⟨sensor, hne, hfails⟩
      · exact hsent
      · exact absurd (hsilent sending) hsending
      · rcases hall sensor with hzero | hboth
        · exact absurd hzero hne
        · exact absurd hboth.2 hfails
    intro sensor
    have hboth := (hall sensor).resolve_left (hsent sensor)
    exact ⟨(n.sensorMsg_healthy_iff nowNs sensor).2 hboth, hboth.2⟩

/-! ## Whole runs -/

/-- What the events so far say about the trackers. -/
structure Tracked (es : List Event) (n : SensorMonitorNode α) : Prop where
  name : ∀ sensor, (n.trackers sensor).sensorName = sensor.name
  delivered : ∀ sensor, (n.trackers sensor).lastMsgTimeNs ≠ 0 →
    ∃ nowNs, .message sensor nowNs ∈ es

omit [Sub α] [Mul α] [Div α] [NatCast α] [Casts α] in
theorem tracked_of_create {loaded : SensorMonitorParams α} {startupTimeNs : ℤ}
    (h : create loaded startupTimeNs = .ok n) : Tracked [] n := by
  unfold create at h
  split at h
  · cases h
  · split at h
    · cases h
    · cases h
      exact ⟨fun _ => rfl, fun _ hne => absurd rfl hne⟩

variable [Add α] [IntCast α] {clockNs : ℤ}

omit [Add α] in
theorem timerTick_tracker (n : SensorMonitorNode α) (clockNs : ℤ) (nowNs : UInt64)
    (sensor : Sensor) :
    ((n.timerTick clockNs nowNs).1.trackers sensor).sensorName =
        (n.trackers sensor).sensorName ∧
      ((n.timerTick clockNs nowNs).1.trackers sensor).lastMsgTimeNs =
        (n.trackers sensor).lastMsgTimeNs := by
  unfold timerTick
  split <;> exact ⟨rfl, rfl⟩

theorem Tracked.next {es : List Event} (h : Tracked es n) (e : Event) :
    Tracked (es ++ [e]) (component.next n e) := by
  have hold : ∀ sensor, (n.trackers sensor).lastMsgTimeNs ≠ 0 →
      ∃ nowNs, .message sensor nowNs ∈ es ++ [e] := fun sensor hne =>
    (h.delivered sensor hne).imp fun _ hmem => List.mem_append_left _ hmem
  cases e with
  | message sender nowNs =>
      have htracker : ∀ sensor, (component.next n (.message sender nowNs)).trackers sensor =
          if sensor = sender then (n.trackers sensor).recordMessage nowNs
          else n.trackers sensor := fun _ => rfl
      refine ⟨fun sensor => ?_, fun sensor hne => ?_⟩
      · rw [htracker]
        split <;> exact h.name sensor
      · by_cases hsender : sensor = sender
        · subst hsender
          exact ⟨nowNs, List.mem_append_right _ List.mem_cons_self⟩
        · rw [htracker, if_neg hsender] at hne
          exact hold sensor hne
  | timerTick clockNs nowNs =>
      have htracker := n.timerTick_tracker clockNs nowNs
      refine ⟨fun sensor => (htracker sensor).1.trans (h.name sensor), fun sensor hne => ?_⟩
      rw [component, (htracker sensor).2] at hne
      exact hold sensor hne
  | publishMetrics nowNs => exact ⟨h.name, hold⟩

theorem tracked_run {loaded : SensorMonitorParams α} {startupTimeNs : ℤ}
    (h : create loaded startupTimeNs = .ok n) (es : List Event) :
    Tracked es (component.run n es) :=
  Component.run_history (I := Tracked) (tracked_of_create h) (fun _ e h => h.next e) es

omit [Add α] in
theorem timerTick_snd (hgrace : n.inGracePeriod clockNs = false) :
    (n.timerTick clockNs nowNs).2 =
      (Sensor.all.map fun sensor => .health ((n.prune nowNs).sensorMsg nowNs sensor)) ++
        [.health ((n.prune nowNs).summaryMsg nowNs)] := by
  unfold timerTick
  rw [if_neg (by simp [hgrace])]
  rfl

/-- The summary of a tick is the only message of its name. -/
theorem mem_output_iff {es : List Event} (h : Tracked es n)
    (hgrace : n.inGracePeriod clockNs = false) {msg : SensorHealthMsg α} :
    .health msg ∈ component.output n (.timerTick clockNs nowNs) ∧ msg.sensorName = "all" ↔
      msg = (n.prune nowNs).summaryMsg nowNs := by
  have houtput : component.output n (.timerTick clockNs nowNs) = _ := timerTick_snd hgrace
  rw [houtput, List.mem_append, List.mem_map, List.mem_singleton]
  constructor
  · rintro ⟨⟨sensor, -, hmsg⟩ | hmsg, hname⟩
    · have hsensor : msg.sensorName = sensor.name := by
        rw [← Publication.health.inj hmsg, sensorMsg, SensorTracker.buildSensorMsg_sensorName]
        exact h.name sensor
      exact absurd (hsensor.symm.trans hname) sensor.name_ne_all
    · exact Publication.health.inj hmsg
  · rintro rfl
    exact ⟨.inr rfl, rfl⟩

/-- At every tick past the grace period: if the summary is healthy, every sensor has sent a
message and is classified as healthy. -/
def SummaryHolds (n : SensorMonitorNode α) (es : List Event) : Prop :=
  ∀ pre clockNs nowNs post, es = pre ++ .timerTick clockNs nowNs :: post →
    ∀ msg, .health msg ∈ component.output (component.run n pre) (.timerTick clockNs nowNs) →
      msg.sensorName = "all" → msg.status = SensorHealth.healthy →
      ∀ sensor, (∃ sentNs, .message sensor sentNs ∈ pre) ∧
        (component.run n pre).ClassifiedHealthy nowNs sensor

/-- For every node and run: the summary holds what it says if and only if no tick past the
grace period finds a sensor that has sent nothing beside healthy ones only. -/
theorem summaryHolds_iff {loaded : SensorMonitorParams α} {startupTimeNs : ℤ}
    (h : create loaded startupTimeNs = .ok n) (es : List Event) :
    SummaryHolds n es ↔
      ∀ pre clockNs nowNs post, es = pre ++ .timerTick clockNs nowNs :: post →
        (component.run n pre).inGracePeriod clockNs = false →
        (component.run n pre).AdmitsSummary nowNs := by
  refine forall₄_congr fun pre clockNs nowNs post => forall_congr' fun _ => ?_
  have htracked := tracked_run h pre
  cases hgrace : (component.run n pre).inGracePeriod clockNs with
  | true =>
      have houtput : component.output (component.run n pre) (.timerTick clockNs nowNs) = [] :=
        congrArg Prod.snd (if_pos hgrace)
      simp [houtput]
  | false =>
      rw [forall_prop_of_true rfl, ← summary_iff_admits]
      constructor
      · intro hsummary hhealthy sensor
        obtain ⟨hmem, hname⟩ := (mem_output_iff htracked hgrace).2 rfl
        exact (hsummary _ hmem hname hhealthy sensor).2
      · intro hsummary msg hmem hname hhealthy sensor
        rw [(mem_output_iff htracked hgrace).1 ⟨hmem, hname⟩] at hhealthy
        have hclassified := hsummary hhealthy sensor
        have hsent := ((sensorMsg_healthy_iff _ nowNs sensor).1 hclassified.status).1
        exact ⟨htracked.delivered sensor hsent, hclassified⟩

/-! ## A node with the default parameters -/

/-- The node of the default parameters. -/
def defaultNode : SensorMonitorNode ℚ where
  params := {}
  trackers sensor := { sensorName := sensor.name, expectedRateHz := sensor.expectedRate {} }
  startupTimeNs := 0

/-- The defaults pass the checks of the constructor, and their thresholds are kept. -/
theorem create_default : create ({} : SensorMonitorParams ℚ) 0 = .ok defaultNode := by
  have hkept : ∀ threshold : ℚ, 0 ≤ threshold → threshold ≤ 1.0 →
      clampThreshold threshold = threshold := fun threshold hlo hhi =>
    if_neg (not_or.2 ⟨not_lt.2 hlo, not_lt.2 hhi⟩)
  unfold create
  rw [if_neg (by norm_num), if_neg (by norm_num), hkept 0.8 (by norm_num) (by norm_num),
    hkept 0.5 (by norm_num) (by norm_num)]
  rfl

/-- Eighty messages of each sensor in a second. -/
def everySensor : List Event :=
  (List.range 80).flatMap fun i =>
    Sensor.all.map fun sensor => .message sensor (2208000000 + 10000000 * i.toUInt64)

theorem timerTick_notMem_everySensor {clockNs : ℤ} {nowNs : UInt64} :
    .timerTick clockNs nowNs ∉ everySensor := by
  simp [everySensor]

/-- The tick after these messages publishes a healthy summary. -/
theorem summaryHolds_everySensor :
    (((component.run defaultNode everySensor).prune 3000000000).summaryMsg 3000000000).status =
        SensorHealth.healthy ∧
      SummaryHolds defaultNode (everySensor ++ [.timerTick 3000000000 3000000000]) := by
  have hsent : ∀ sensor, ((component.run defaultNode everySensor).trackers sensor).lastMsgTimeNs ≠
      0 := by
    intro sensor
    cases sensor <;> decide +kernel
  refine ⟨by decide +kernel, (summaryHolds_iff create_default _).2 ?_⟩
  intro pre clockNs nowNs post hsplit _
  -- The tick is the last event, since the others are messages.
  rcases List.eq_nil_or_concat' post with rfl | ⟨post, last, rfl⟩
  · obtain ⟨rfl, -⟩ := List.append_inj' hsplit rfl
    exact .inl hsent
  · rw [← List.cons_append, ← List.append_assoc] at hsplit
    have hmessages := List.append_inj_left' hsplit rfl
    exact absurd (hmessages ▸ List.mem_append_right pre List.mem_cons_self)
      timerTick_notMem_everySensor

/-- Eight messages of the lidar in a second, and none of the other sensors. -/
def lidarOnly : List Event :=
  (List.range 8).map fun i => .message .lidar (2300000000 + 100000000 * i.toUInt64)

/-- The summary after these messages is healthy. -/
theorem not_always_summaryHolds :
    ¬ ∀ (loaded : SensorMonitorParams ℚ) (startupTimeNs : ℤ) (n : SensorMonitorNode ℚ)
      (es : List Event), create loaded startupTimeNs = .ok n → SummaryHolds n es := by
  intro h
  have hgrace : (component.run defaultNode lidarOnly).inGracePeriod 3000000000 = false := by
    decide +kernel
  have hhealthy :
      (((component.run defaultNode lidarOnly).prune 3000000000).summaryMsg 3000000000).status =
        SensorHealth.healthy := by
    decide +kernel
  obtain ⟨hmem, hname⟩ := (mem_output_iff (tracked_run create_default lidarOnly) hgrace).2 rfl
  obtain ⟨⟨sentNs, hsent⟩, -⟩ :=
    h {} 0 defaultNode _ create_default lidarOnly 3000000000 3000000000 [] rfl _ hmem hname
      hhealthy .gps
  simp [lidarOnly] at hsent

end SensorMonitorNode

end SafetyCore
