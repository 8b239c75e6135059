import SafetyCore.Ros.SafetyStack.SpeedLimit
import SafetyCore.Ros.SupervisorNode.DegradedLimit

/-!
# A degraded sensor slows the drive

From a sensor that the monitor classifies as degraded, by way of its health message and the
recovery speed limit, to the commands of the drive, which stay within half of the maximal speed.
The supervisor keeps the record of the sensor until a message reports another status, whatever
else it reads and does.
-/

namespace SafetyCore

open Arithmetic Transition

/-! ## The nodes -/

/-- The window ends now. -/
theorem SensorTracker.cutoffNs_le {α : Type*} [Mul α] [OfScientific α] [Casts α]
    (nowNs : UInt64) (windowS : α) : SensorTracker.cutoffNs nowNs windowS ≤ nowNs := by
  unfold SensorTracker.cutoffNs
  dsimp only
  split
  next hlong => exact UInt64.sub_le hlong
  next => exact UInt64.zero_le

namespace SensorMonitorNode

variable {α : Type*} [Zero α] [Add α] [Sub α] [Mul α] [Div α] [OfScientific α] [NatCast α]
  [IntCast α] [LT α] [DecidableLT α] [LE α] [DecidableLE α] [Casts α]

/-- The trackers are named after their sensors. -/
def Named (n : SensorMonitorNode α) : Prop :=
  ∀ sensor, (n.trackers sensor).sensorName = sensor.name

theorem named_preserved : (component (α := α)).Preserved Named := by
  intro n e h sensor
  cases e with
  | message sender nowNs =>
      change (if sensor = sender then (n.trackers sensor).recordMessage nowNs
        else n.trackers sensor).sensorName = _
      split <;> exact h sensor
  | timerTick clockNs nowNs => exact (n.timerTick_tracker clockNs nowNs sensor).1.trans (h sensor)
  | publishMetrics nowNs => exact h sensor

omit [Add α] [IntCast α] in
theorem sensorMsg_sensorName {n : SensorMonitorNode α} (h : n.Named) (nowNs nowNs' : UInt64)
    (sensor : Sensor) : ((n.prune nowNs).sensorMsg nowNs' sensor).sensorName = sensor.name :=
  (SensorTracker.buildSensorMsg_sensorName ..).trans (h sensor)

end SensorMonitorNode

namespace SafetySupervisorNode

open SensorRecoveryManager

section Records

variable {α : Type*} [Zero α] [Add α] [Sub α] [Mul α] [Div α] [OfScientific α] [NatCast α]
  [LE α] {p : Params α} {n : SafetySupervisorNode α} {name : String}

omit [Zero α] [Add α] [Sub α] [Mul α] [Div α] [OfScientific α] [NatCast α] [LE α] in
theorem not_ignores_of_recordsDegraded (h : n.recoveryMgr.RecordsDegraded name)
    (status : UInt8) : ¬ n.recoveryMgr.Ignores name status := by
  rintro ⟨-, info, hfind, -, hne⟩
  obtain ⟨info', hfind', hd⟩ := h
  cases hfind.symm.trans hfind'
  exact hne hd

omit [Zero α] [Add α] [Sub α] [Div α] [NatCast α] [LE α] in
/-- A degraded sensor is recorded so after its message, unless it is ignored. -/
theorem recordsDegraded_onSensorHealth (hname : name ≠ "all")
    (h : ¬ n.recoveryMgr.Ignores name SensorHealth.degraded) (now nowRecovered : UInt64) :
    (n.onSensorHealth name SensorHealth.degraded now
      nowRecovered).recoveryMgr.RecordsDegraded name :=
  (recordsDegraded_processHealthMsg h).congr
    (onSensorHealth_sensorStates hname _ now nowRecovered)

/-- A sensor stays recorded as degraded until a message reports another status. -/
theorem recordsDegraded_next (hname : name ≠ "all") (h : n.recoveryMgr.RecordsDegraded name)
    {e : Event} (he : ∀ status ∈ e.statusOf name, status = SensorHealth.degraded) :
    ((component p).next n e).recoveryMgr.RecordsDegraded name := by
  cases e with
  | envelope zone =>
      obtain ⟨_, _, heq⟩ := onEnvelope_frame p n zone
      change (n.onEnvelope p zone).recoveryMgr.RecordsDegraded name
      rwa [heq]
  | odom sec nanosec => exact h
  | sensorHealth sensorName status now nowRecovered =>
      change (n.onSensorHealth sensorName status now nowRecovered).recoveryMgr.RecordsDegraded name
      by_cases hself : sensorName = name
      · subst hself
        obtain rfl : status = SensorHealth.degraded := he status (if_pos rfl)
        exact recordsDegraded_onSensorHealth hname (not_ignores_of_recordsDegraded h _) now
          nowRecovered
      · by_cases hall : sensorName = "all"
        · unfold onSensorHealth
          rw [if_pos hall]
          exact h
        · obtain ⟨info, hfind, hd⟩ := h
          have hkept : (n.recoveryMgr.processHealthMsg sensorName status
              now).1.RecordsDegraded name :=
            ⟨info, (processHealthMsg_find_of_ne (Ne.symm hself)).trans hfind, hd⟩
          exact hkept.congr (onSensorHealth_sensorStates hall status now nowRecovered)
  | clearFault =>
      obtain ⟨_, heq⟩ := n.onClearFault_frame
      change n.onClearFault.1.recoveryMgr.RecordsDegraded name
      rwa [heq]
  | timerTick now nowLocalization nowHealth order =>
      exact recordsDegraded_checked now nowLocalization nowHealth order h

end Records

/-- A tick that finds a sensor recorded as degraded publishes at most half of the maximal
speed. -/
theorem currentLimit_le_half {K : Type*} [Field K] [LinearOrder K] [IsStrictOrderedRing K]
    {p : Params K} {n : SafetySupervisorNode K} {name : String} (h : HoldsLimit p n)
    (hrecord : n.recoveryMgr.RecordsDegraded name) (now nowLocalization nowHealth : UInt64)
    (order : List String) :
    (n.timerTick p now nowLocalization nowHealth order).1.speedCtrl.currentLimitMps ≤
      p.maxSpeedMps / 2 := by
  obtain ⟨stop, heq⟩ := timerTick_speedCtrl p n now nowLocalization nowHealth order
  have hle := ((h.half hrecord.isAnyDegraded).update h.maxSpeed_nonneg now stop).2
  rwa [← heq, h.maxSpeed] at hle

end SafetySupervisorNode

/-! ## The chain -/

namespace SafetyStack

variable {K : Type} [Field K] [LinearOrder K] [IsStrictOrderedRing K] [SquareRoot K]
  [Trigonometry K] [Casts K]

/-- The supervisor reads no message in the step that reports the sensor with another status. -/
def KeepsDegraded (p : Params K) (name : String) (s : State K) (ev : Event K) : Prop :=
  ∀ e, (network p).reads s ev = some ⟨.supervisor, e⟩ →
    ∀ status ∈ e.statusOf name, status = SensorHealth.degraded

/-- The supervisor has the sensor recorded as degraded, and its controller holds half of the
maximal speed. -/
structure HoldsDegraded (p : Params K) (name : String) (s : State K) : Prop where
  limit : SafetySupervisorNode.HoldsLimit p.supervisor (s.nodes .supervisor)
  record : (s.nodes .supervisor).recoveryMgr.RecordsDegraded name

variable {p : Params K} {monitor : SensorMonitorNode K} {envelope : SafetyEnvelopeNode K}
  {s : State K} {ev : Event K} {name : String}

theorem holdsDegraded_step (hname : name ≠ "all") (hev : KeepsDegraded p name s ev)
    (h : HoldsDegraded p name s) : HoldsDegraded p name ((network p).step s ev) := by
  refine ⟨Network.preserved_lift (N := network p) (i := .supervisor)
    (SafetySupervisorNode.holdsLimit_preserved p.supervisor) s ev h.limit, ?_⟩
  rcases (network p).nodes_step_cases s ev .supervisor with hkeep | ⟨e, hr, hnext⟩
  · rw [hkeep]
    exact h.record
  · rw [hnext]
    exact SafetySupervisorNode.recordsDegraded_next hname h.record (hev e hr)

/-- What is published on the topic while the sensor is recorded as degraded. -/
theorem limit_of_holdsDegraded (h : HoldsDegraded p name s) :
    ∀ m ∈ (network p).published s ev, (network p).topic m = .recoverySpeedLimit →
      ∃ data, m = .recoverySpeedLimit data ∧ data ≤ p.supervisor.maxSpeedMps / 2 := by
  intro m hm htopic
  obtain ⟨now, nowLocalization, nowHealth, order, -, rfl⟩ := exists_tick_of_limit_mem hm htopic
  exact ⟨_, rfl, SafetySupervisorNode.currentLimit_le_half h.limit h.record now nowLocalization
    nowHealth order⟩

omit [IsStrictOrderedRing K] in
theorem named_stateAfter {loaded : SensorMonitorParams K} {startupTimeNs : ℤ}
    (h : SensorMonitorNode.create loaded startupTimeNs = .ok monitor) (es : List (Event K)) :
    SensorMonitorNode.Named ((stateAfter p monitor envelope es).nodes .monitor) :=
  (Network.preserved_lift (N := network p) (i := .monitor)
    SensorMonitorNode.named_preserved).run (s := initial p monitor envelope)
    (SensorMonitorNode.tracked_of_create h).name es

theorem holdsLimit_stateAfter (es : List (Event K)) :
    SafetySupervisorNode.HoldsLimit p.supervisor
      ((stateAfter p monitor envelope es).nodes .supervisor) :=
  (Network.preserved_lift (N := network p) (i := .supervisor)
    (SafetySupervisorNode.holdsLimit_preserved p.supervisor)).run
    (SafetySupervisorNode.holdsLimit_initial p.supervisor) es

/-- A tick of the monitor past the grace period that finds a sensor degraded, and the health
message that it publishes for the sensor. If the supervisor reads it and does not ignore it, and
reads no message afterwards that reports the sensor with another status, then the drive is
commanded at most half of the maximal speed, outside of a stop profile, as soon as the bridge has
read a recovery speed limit published since. -/
theorem degraded_halves_drive (p : Params K) {loaded : SensorMonitorParams K}
    {startupTimeNs : ℤ} {monitor : SensorMonitorNode K}
    (hmonitor : SensorMonitorNode.create loaded startupTimeNs = .ok monitor)
    (envelope : SafetyEnvelopeNode K) (es fs gs : List (Event K)) (clockNs : ℤ) (nowNs : UInt64)
    (c : UInt64 × UInt64) (sensor : Sensor) {j k : ℕ} {m : Message K} :
    let s := stateAfter p monitor envelope es
    let n : SensorMonitorNode K := s.nodes .monitor
    let read := es ++ .input .monitor (.timerTick clockNs nowNs) :: fs
    let s₁ := stateAfter p monitor envelope read
    let report : Event K := .deliver .supervisor (s.log.length + j) c
    let s₂ := stateAfter p monitor envelope (read ++ report :: gs)
    let b : SafetyDriveBridgeNode K := s₂.nodes .bridge
    n.inGracePeriod clockNs = false → Sensor.all[j]? = some sensor →
    ((n.prune nowNs).sensorMsg nowNs sensor).status = SensorHealth.degraded →
    connected p .supervisor .sensorHealth = true →
    (∀ q ∈ s₁.last (.supervisor, .sensorHealth), q.1 < s.log.length + j) →
    ¬ (s₁.nodes .supervisor).recoveryMgr.Ignores sensor.name SensorHealth.degraded →
    (network p).component.Along (KeepsDegraded p sensor.name) ((network p).step s₁ report) gs →
    s₂.last (.bridge, .recoverySpeedLimit) = some (k, m) → s₁.log.length ≤ k →
    ¬ FollowsProfile b →
    ∀ nowTick, |(b.controlTick p.bridge nowTick).2.linearX| ≤ p.supervisor.maxSpeedMps / 2 := by
  intro s n read s₁ report s₂ b hgrace hj hsensor hconn hunread hignore hgs hread hk hprofile
    nowTick
  have hlog : s₁.log[s.log.length + j]? =
      some (.sensorHealth ((n.prune nowNs).sensorMsg nowNs sensor)) := by
    refine log_of_published fs ?_
    rw [published_monitorTick hgrace, List.getElem?_append_left (by simpa using
      (List.getElem?_eq_some_iff.1 hj).1), List.getElem?_map, hj]
    rfl
  have hreads := reads_deliver (c := c) (i := .supervisor) hlog hunread hconn rfl
  have hheld : HoldsDegraded p sensor.name ((network p).step s₁ report) := by
    refine ⟨Network.preserved_lift (N := network p) (i := .supervisor)
      (SafetySupervisorNode.holdsLimit_preserved p.supervisor) s₁ report
      (holdsLimit_stateAfter _), ?_⟩
    rw [Network.nodes_step_self hreads, SensorMonitorNode.sensorMsg_sensorName
      (named_stateAfter hmonitor es), hsensor]
    exact SafetySupervisorNode.recordsDegraded_onSensorHealth sensor.name_ne_all hignore c.1 c.2
  obtain ⟨data, rfl, hdata⟩ : ∃ data, m = .recoverySpeedLimit data ∧
      data ≤ p.supervisor.maxSpeedMps / 2 := by
    have hlast := stateAfter_append p monitor envelope read (report :: gs)
    change s₂ = _ at hlast
    rw [hlast] at hread
    exact Network.Along.last_cons (fun _ _ hev h => holdsDegraded_step sensor.name_ne_all hev h)
      (fun _ _ _ h => limit_of_holdsDegraded h) (coherent_stateAfter p monitor envelope read)
      hheld (fun m hm htopic => by
        obtain ⟨_, _, _, _, hev, -⟩ := exists_tick_of_limit_mem hm htopic
        exact absurd hev (by simp [report])) hgs hread hk
  have hnonneg : 0 ≤ p.supervisor.maxSpeedMps / 2 :=
    div_nonneg (not_le.1 p.supervisor.maxSpeedMps_valid).le zero_le_two
  exact (controlTick_of_recoveryLimit hread hprofile nowTick).trans (max_le hnonneg hdata)

section Bringup

omit [IsStrictOrderedRing K] in
/-- The supervisor learns of another status by a message only. -/
theorem keepsDegraded_of_ne (hev : ∀ k c, ev ≠ .deliver .supervisor k c) :
    KeepsDegraded p name s ev := by
  intro e hreads status hstatus
  rcases Network.reads_eq_some_iff.1 hreads with ⟨-, hext⟩ | ⟨k, c, -, hdeliver, -⟩
  · cases e with
    | sensorHealth => cases hext
    | _ => cases hstatus
  · exact absurd hdeliver (hev k c)

/-- Five messages of the lidar in a second are half of what is expected. -/
noncomputable def fiveScans : List (Event ℝ) :=
  List.replicate 5 (.input .monitor (.message .lidar 1))

theorem sensorMsg_fiveScans :
    let n : SensorMonitorNode ℝ :=
      (stateAfter bringup bringupMonitor bringupEnvelope fiveScans).nodes .monitor
    ((n.prune 1).sensorMsg 1 .lidar).status = SensorHealth.degraded := by
  intro n
  have htracker : (n.prune 1).trackers .lidar =
      { sensorName := "lidar", expectedRateHz := 10.0, lastMsgTimeNs := 1,
        msgTimes := [1, 1, 1, 1, 1].dropWhile (· < SensorTracker.cutoffNs 1 (1.0 : ℝ)) } := rfl
  have hkept : ¬ (1 : UInt64) < SensorTracker.cutoffNs 1 (1.0 : ℝ) :=
    UInt64.not_lt.2 (SensorTracker.cutoffNs_le 1 _)
  rw [List.dropWhile_cons_of_neg (by simpa using hkept)] at htracker
  change (((n.prune 1).trackers .lidar).buildSensorMsg ({} : SensorMonitorParams ℝ) 1).status = _
  rw [htracker, SensorTracker.buildSensorMsg, if_neg (by exact (by decide : (1 : UInt64) ≠ 0))]
  norm_num [SensorTracker.classify, SensorTracker.rateRatio, SensorTracker.updateRateHz,
    SensorTracker.expectedPeriodS, TimeUtils.calculateAgeNs, TimeUtils.nanosecondsToSeconds]

/-- The planner asks for 1 m/s. -/
theorem degraded_halves_drive_fiveScans :
    let es : List (Event ℝ) := fiveScans ++
      [.input .monitor (.timerTick 3000000000 1), .deliver .supervisor 0 (1, 1),
        .input .supervisor (.timerTick 1 1 1 []), .deliver .bridge 5 (0, 0),
        .input .bridge (.cmdVelNav ⟨1.0, 0⟩ 5)]
    |(((stateAfter bringup bringupMonitor bringupEnvelope es).nodes .bridge).controlTick
      bringup.bridge 5).2.linearX| ≤ 1.5 / 2 := by
  have hgrace : ((stateAfter bringup bringupMonitor bringupEnvelope fiveScans).nodes
      .monitor).inGracePeriod 3000000000 = false := by
    change bringupMonitor.inGracePeriod 3000000000 = false
    norm_num [bringupMonitor, SensorMonitorNode.inGracePeriod,
      SensorMonitorNode.kStartupGracePeriodS]
  let rest : List (Event ℝ) :=
    [.deliver .supervisor 0 (1, 1), .input .supervisor (.timerTick 1 1 1 []),
      .deliver .bridge 5 (0, 0), .input .bridge (.cmdVelNav ⟨1.0, 0⟩ 5)]
  obtain ⟨nodes, lidar, imu, gps, odometry, summary, htick⟩ :=
    stateAfter_monitorTick bringup bringupMonitor bringupEnvelope fiveScans 1 hgrace
  have hrun : stateAfter bringup bringupMonitor bringupEnvelope
      (fiveScans ++ .input .monitor (.timerTick 3000000000 1) :: rest) =
        (network bringup).component.run
          (stateAfter bringup bringupMonitor bringupEnvelope
            (fiveScans ++ [.input .monitor (.timerTick 3000000000 1)])) rest := by
    rw [← stateAfter_append, List.append_assoc]
    rfl
  obtain ⟨m, hread⟩ : ∃ m, (stateAfter bringup bringupMonitor bringupEnvelope
      (fiveScans ++ .input .monitor (.timerTick 3000000000 1) :: rest)).last
        (.bridge, .recoverySpeedLimit) = some (5, m) := by
    rw [hrun, htick]
    exact ⟨_, rfl⟩
  have hprofile : ¬ FollowsProfile ((stateAfter bringup bringupMonitor bringupEnvelope
      (fiveScans ++ .input .monitor (.timerTick 3000000000 1) :: rest)).nodes .bridge) := by
    rintro ⟨-, hstop⟩
    rw [bridge_safeStopActive, hrun, htick] at hstop
    cases hstop
  have hlength : (stateAfter bringup bringupMonitor bringupEnvelope
      (fiveScans ++ [.input .monitor (.timerTick 3000000000 1)])).log.length ≤ 5 := by
    rw [htick]
    rfl
  refine degraded_halves_drive bringup create_bringupMonitor bringupEnvelope fiveScans []
    rest.tail 3000000000 1 (1, 1) .lidar (j := 0) hgrace rfl sensorMsg_fiveScans rfl ?_ ?_ ?_
    hread hlength hprofile 5
  · intro q hq
    change q ∈ (stateAfter bringup bringupMonitor bringupEnvelope
      (fiveScans ++ [.input .monitor (.timerTick 3000000000 1)])).last _ at hq
    rw [htick] at hq
    cases hq
  · rintro ⟨-, info, hfind, -⟩
    change (SafetySupervisorNode.initial bringup.supervisor).recoveryMgr.find _ = _ at hfind
    cases hfind
  · exact ⟨keepsDegraded_of_ne (by simp), keepsDegraded_of_ne (by simp),
      keepsDegraded_of_ne (by simp), trivial⟩

end Bringup

end SafetyStack

end SafetyCore
