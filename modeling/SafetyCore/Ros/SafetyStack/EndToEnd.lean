import SafetyCore.Ros.SafetyEnvelope.Emergency
import SafetyCore.Ros.SafetyStack.FaultStop
import SafetyCore.Ros.SensorMonitor.Summary
import SafetyCore.Ros.SupervisorNode.SummaryFault

/-!
# From a sensor to the drive

Two chains through the stack end in a standstill: an obstacle inside the buffer, by way of the
envelope node, and a sensor that the monitor classifies as faulty, by way of the summary. Along
either chain any callback of any node may come in between, except for those that undo it.
-/

namespace SafetyCore

open Arithmetic Transition

namespace SensorTracker

/-- A sensor that sends too little is faulty, whatever the age of its data. -/
theorem status_of_rateRatio_lt {K : Type*} [Field K] [LinearOrder K]
    {params : SensorMonitorParams K} {tracker : SensorTracker K} {nowNs : UInt64}
    (hsent : tracker.lastMsgTimeNs ≠ 0)
    (hratio : tracker.rateRatio params < params.degradedThreshold)
    (hthresholds : params.degradedThreshold ≤ params.healthyThreshold) :
    (tracker.buildSensorMsg params nowNs).status = SensorHealth.fault := by
  unfold buildSensorMsg
  rw [if_neg hsent]
  unfold classify
  simp [not_le.2 hratio, not_le.2 (hratio.trans_le hthresholds), hratio]

end SensorTracker

namespace SensorMonitorNode

variable {α : Type*} [Zero α] [Sub α] [Mul α] [Div α] [OfScientific α] [NatCast α]
  [LT α] [DecidableLT α] [LE α] [DecidableLE α]

theorem status_le_fault (n : SensorMonitorNode α) (nowNs : UInt64) (sensor : Sensor) :
    (n.sensorMsg nowNs sensor).status ≤ SensorHealth.fault := by
  unfold sensorMsg SensorTracker.buildSensorMsg
  split
  · exact (by decide : SensorHealth.unknown ≤ SensorHealth.fault)
  · dsimp only
    unfold SensorTracker.classify
    dsimp only
    split_ifs <;> decide

/-- The summary is faulty exactly if a sensor is. -/
theorem summaryMsg_fault_iff {n : SensorMonitorNode α} {nowNs : UInt64} :
    (n.summaryMsg nowNs).status = SensorHealth.fault ↔
      ∃ sensor, (n.sensorMsg nowNs sensor).status = SensorHealth.fault := by
  have hge := (n.le_foldl_evaluateTracker nowNs Sensor.all (SensorHealth.unknown, "")).2
  have hmem := n.foldl_evaluateTracker_mem nowNs Sensor.all (SensorHealth.unknown, "")
  change (n.worstStatus nowNs).1 = SensorHealth.fault ↔ _
  rw [← worstStatus] at hge hmem
  constructor
  · intro hfault
    rw [hfault] at hmem
    rcases hmem with hunknown | ⟨sensor, -, heq⟩
    · exact absurd hunknown.symm SensorHealth.unknown_ne_fault
    · exact ⟨sensor, heq.symm⟩
  · rintro ⟨sensor, h⟩
    have hle := hge sensor sensor.mem_all
    rw [h] at hle
    refine UInt8.le_antisymm ?_ hle
    rcases hmem with hunknown | ⟨other, -, heq⟩
    · rw [hunknown]
      decide
    · rw [heq]
      exact n.status_le_fault nowNs other

end SensorMonitorNode

namespace SafetyStack

section Chains

variable {α : Type} [Zero α] [Add α] [Sub α] [Mul α] [Div α] [Neg α] [OfScientific α]
  [NatCast α] [IntCast α] [LT α] [DecidableLT α] [LE α] [DecidableLE α] [FiniteTest α]
  [SquareRoot α] [Trigonometry α] [Casts α] {p : Params α}

/-- A message on a topic to which the node is connected is read, if nothing published after it
was. -/
theorem reads_deliver {s : State α} {i : NodeId} {k : ℕ} {c : UInt64 × UInt64} {m : Message α}
    {e : NodeEvent α i} (hlog : s.log[k]? = some m)
    (hunread : ∀ q ∈ s.last (i, m.topic), q.1 < k) (hconn : connected p i m.topic = true)
    (he : callback i m c = some e) :
    (network p).reads s (.deliver i k c) = some ⟨i, e⟩ := by
  refine Network.reads_eq_some_iff.2
    (.inr ⟨k, c, m, rfl, Network.unread_eq_some_iff.2 ⟨hlog, hunread⟩, ?_⟩)
  exact (if_pos hconn).trans he

/-- What was published stays at its place. -/
theorem log_of_published {monitor : SensorMonitorNode α} {envelope : SafetyEnvelopeNode α}
    {es : List (Event α)} (fs : List (Event α)) {ev : Event α} {j : ℕ} {m : Message α}
    (h : ((network p).published (stateAfter p monitor envelope es) ev)[j]? = some m) :
    (stateAfter p monitor envelope (es ++ ev :: fs)).log[
      (stateAfter p monitor envelope es).log.length + j]? = some m := by
  rw [stateAfter_append]
  obtain ⟨rest, hrest⟩ := Network.log_run_isPrefix (N := network p)
    ((network p).step (stateAfter p monitor envelope es) ev) fs
  change ((network p).component.run ((network p).step _ ev) fs).log[_]? = _
  have hlt := (List.getElem?_eq_some_iff.1 h).1
  rw [← hrest, Network.log_step, List.append_assoc, List.getElem?_append_right (by omega),
    Nat.add_sub_cancel_left, List.getElem?_append_left hlt]
  exact h

end Chains

/-! ## An obstacle -/

section Obstacle

open SafetyEnvelopeNode (scanAhead)

variable {K : Type} [Field K] [LinearOrder K] [SquareRoot K] [Trigonometry K] [Casts K]

/-- A scan with the nearest obstacle inside the buffer, past the grace period, and the status
that is published for it. If the supervisor still reads the status and the fault is not cleared,
the drive publishes only zero as soon as the bridge has read a state message published since
then. -/
theorem obstacle_stops_drive (p : Params K) (monitor : SensorMonitorNode K)
    (envelope : SafetyEnvelopeNode K) (es fs gs : List (Event K)) (scan : LaserScan K) (now : ℤ)
    (c : UInt64 × UInt64) {d : K} {k : ℕ} {m : Message K} :
    let s := stateAfter p monitor envelope es
    let n : SafetyEnvelopeNode K := s.nodes .envelope
    let s₁ := stateAfter p monitor envelope (es ++ .input .envelope (.scan scan now) :: fs)
    let s₂ := stateAfter p monitor envelope
      ((es ++ .input .envelope (.scan scan now) :: fs) ++
        .deliver .supervisor s.log.length c :: gs)
    n.nearestObstacleInFootprintCorridor scan = (d : WithTop K) → 0 ≤ d →
    d - n.footprint.frontOverhangM < n.dynamicBuffer (stdMax 0 n.latestSpeedMps) →
    n.inGracePeriod now = false →
    connected p .supervisor .envelopeStatus = true →
    (∀ q ∈ s₁.last (.supervisor, .envelopeStatus), q.1 < s.log.length) →
    (∀ ev ∈ gs, ev ≠ .input .supervisor .clearFault) →
    s₂.last (.bridge, .state) = some (k, m) → s₁.log.length ≤ k →
    ∀ nowTick, ((s₂.nodes .bridge).controlTick p.bridge nowTick).2 = ⟨0, 0⟩ := by
  intro s n s₁ s₂ hnearest hd hnear hgrace hconn hunread hgs hread hk nowTick
  have hzone : (n.onScan scan now).zone = SafetyZone.emergency.toRaw := by
    rw [SafetyEnvelopeNode.onScan, hnearest, SafetyEnvelopeNode.publishEnvelope_zone n _ now hd,
      hgrace, SafetyEnvelopeNode.evaluate_zone, (zoneOf_eq_emergency_iff ..).2 hnear]
    rfl
  have hpub : (network p).published s (.input .envelope (.scan scan now)) =
      [.envelopeStatus (n.onScan scan now)] :=
    Network.published_of_reads (Network.reads_input rfl)
  have hlog : s₁.log[s.log.length]? = some (.envelopeStatus (n.onScan scan now)) :=
    log_of_published fs (j := 0) (by rw [hpub]; rfl)
  have hreads := reads_deliver (c := c) (i := .supervisor) hlog hunread hconn rfl
  have hfault : FaultLatched ((network p).step s₁ (.deliver .supervisor s.log.length c)) := by
    rw [FaultLatched, Network.nodes_step_self hreads, hzone]
    exact SafetySupervisorNode.latchedFault_of_emergency p.supervisor _
  obtain ⟨msg, rfl, hmsg⟩ := last_of_latches hfault hgs hread hk
  exact controlTick_of_last hread hmsg nowTick

theorem nearestObstacle_bringup {range : ℝ} (h : 0.5 ≤ range) :
    bringupEnvelope.nearestObstacleInFootprintCorridor (scanAhead range) =
      (range : WithTop ℝ) :=
  SafetyEnvelopeNode.nearestObstacle_scanAhead _ (lt_of_lt_of_le (by norm_num) h)
    (le_trans (by norm_num [bringupEnvelope, bringupEnvelopeParams, SafetyEnvelopeNode.membersOf])
      h) h

theorem inGracePeriod_bringup : bringupEnvelope.inGracePeriod 3000000000 = false := by
  norm_num [bringupEnvelope, bringupEnvelopeParams, SafetyEnvelopeNode.membersOf,
    SafetyEnvelopeNode.inGracePeriod]

/-- An obstacle straight ahead, at 0.55 m. -/
theorem obstacle_stops_drive_nearScan :
    let es : List (Event ℝ) := [.input .envelope (.scan (scanAhead 0.55) 3000000000)]
    let gs : List (Event ℝ) :=
      [.input .supervisor (.timerTick 1 1 1 []), .deliver .bridge 2 (0, 0)]
    (((stateAfter bringup bringupMonitor bringupEnvelope
      (es ++ .deliver .supervisor 0 (0, 0) :: gs)).nodes .bridge).controlTick
        bringup.bridge 5).2 = ⟨0, 0⟩ := by
  refine obstacle_stops_drive bringup bringupMonitor bringupEnvelope [] [] _
    (scanAhead 0.55) 3000000000 (0, 0) (nearestObstacle_bringup (by norm_num))
    (by norm_num) ?_ inGracePeriod_bringup rfl (by intro q hq; cases hq) ?_ (k := 2) rfl
    (by decide : 1 ≤ 2) 5
  · change (0.55 : ℝ) - bringupEnvelope.footprint.frontOverhangM <
      bringupEnvelope.dynamicBuffer (stdMax 0 bringupEnvelope.latestSpeedMps)
    norm_num [bringupEnvelope, bringupEnvelopeParams, SafetyEnvelopeNode.membersOf,
      SafetyEnvelopeNode.dynamicBuffer, SafetyEnvelopeNode.configOf, stdMax, stdMin, stdAbs]
  · intro ev hev
    rcases List.mem_cons.1 hev with rfl | hev
    · simp
    · rw [List.mem_singleton.1 hev]
      simp

end Obstacle

/-! ## A sensor -/

section Sensor

variable {α : Type} [Zero α] [Add α] [Sub α] [Mul α] [Div α] [Neg α] [OfScientific α]
  [NatCast α] [IntCast α] [LT α] [DecidableLT α] [LE α] [DecidableLE α] [FiniteTest α]
  [SquareRoot α] [Trigonometry α] [Casts α]

/-- The supervisor reads no summary in the step. -/
def ReadsNoSummary (p : Params α) (s : State α) (ev : Event α) : Prop :=
  ∀ e, (network p).reads s ev = some ⟨.supervisor, e⟩ → ¬ e.IsSummary

theorem summaryIs_run {p : Params α} {s : State α} {status : UInt8} {t : Option UInt64}
    (h : SafetySupervisorNode.SummaryIs status t (s.nodes .supervisor)) {evs : List (Event α)}
    (hevs : (network p).component.Along (ReadsNoSummary p) s evs) :
    SafetySupervisorNode.SummaryIs status t
      (((network p).component.run s evs).nodes .supervisor) := by
  refine hevs.run (I := fun s => SafetySupervisorNode.SummaryIs status t (s.nodes .supervisor))
    (fun s ev hev hs => ?_) h
  change SafetySupervisorNode.SummaryIs status t (((network p).step s ev).nodes .supervisor)
  rcases (network p).nodes_step_cases s ev .supervisor with hkeep | ⟨e, hr, hnext⟩
  · rw [hkeep]
    exact hs
  · rw [hnext]
    exact SafetySupervisorNode.summaryIs_next p.supervisor (hev e hr) hs

theorem settled_stateAfter (p : Params α) (monitor : SensorMonitorNode α)
    (envelope : SafetyEnvelopeNode α) (es : List (Event α)) :
    ((stateAfter p monitor envelope es).nodes .supervisor).machine.Settled :=
  (Network.preserved_lift (N := network p) (i := .supervisor)
    (SafetySupervisorNode.settled_preserved p.supervisor)).run
    (SafetySupervisorNode.settled_initial p.supervisor) es

theorem published_monitorTick {p : Params α} {s : State α} {clockNs : ℤ} {nowNs : UInt64} :
    let n : SensorMonitorNode α := s.nodes .monitor
    n.inGracePeriod clockNs = false →
    (network p).published s (.input .monitor (.timerTick clockNs nowNs)) =
      (Sensor.all.map fun sensor => .sensorHealth ((n.prune nowNs).sensorMsg nowNs sensor)) ++
        [.sensorHealth ((n.prune nowNs).summaryMsg nowNs)] := by
  intro n hgrace
  rw [Network.published_of_reads (Network.reads_input rfl)]
  change publish .monitor (n.timerTick clockNs nowNs).2 = _
  rw [SensorMonitorNode.timerTick_snd hgrace]
  rfl

/-- Such a tick adds the messages of the sensors and the summary to the log. -/
theorem stateAfter_monitorTick (p : Params α) (monitor : SensorMonitorNode α)
    (envelope : SafetyEnvelopeNode α) (es : List (Event α)) {clockNs : ℤ} (nowNs : UInt64)
    (hgrace : ((stateAfter p monitor envelope es).nodes .monitor).inGracePeriod clockNs = false) :
    ∃ nodes lidar imu gps odometry summary,
      stateAfter p monitor envelope (es ++ [.input .monitor (.timerTick clockNs nowNs)]) =
        { nodes := nodes
          log := (stateAfter p monitor envelope es).log ++ [.sensorHealth lidar,
            .sensorHealth imu, .sensorHealth gps, .sensorHealth odometry, .sensorHealth summary]
          last := (stateAfter p monitor envelope es).last } := by
  have hstep := Network.step_of_reads (N := network p) (s := stateAfter p monitor envelope es)
    (Network.reads_input (i := .monitor) (e := .timerTick clockNs nowNs) rfl)
  rw [published_monitorTick hgrace] at hstep
  exact ⟨_, _, _, _, _, _, (stateAfter_append ..).trans hstep⟩

/-- A tick of the monitor past the grace period that finds a sensor faulty, and the summary that
it publishes. If the supervisor still reads the summary, at the clock reading `t`, and ticks
before it reads another one and before the summary is stale, and if the fault is not cleared, the
drive publishes only zero as soon as the bridge has read a state message of that tick or a later
one. -/
theorem sensorFault_stops_drive (p : Params α) (monitor : SensorMonitorNode α)
    (envelope : SafetyEnvelopeNode α) (es fs gs hs : List (Event α)) (clockNs : ℤ)
    (nowNs t tRecovered now nowLocalization nowHealth : UInt64) (order : List String)
    (sensor : Sensor) {k : ℕ} {m : Message α} :
    let s := stateAfter p monitor envelope es
    let n : SensorMonitorNode α := s.nodes .monitor
    let read := es ++ .input .monitor (.timerTick clockNs nowNs) :: fs
    let s₁ := stateAfter p monitor envelope read
    let summary : Event α := .deliver .supervisor (s.log.length + 4) (t, tRecovered)
    let s₂ := stateAfter p monitor envelope (read ++ summary :: gs)
    let s₃ := stateAfter p monitor envelope ((read ++ summary :: gs) ++
      .input .supervisor (.timerTick now nowLocalization nowHealth order) :: hs)
    n.inGracePeriod clockNs = false →
    ((n.prune nowNs).sensorMsg nowNs sensor).status = SensorHealth.fault →
    connected p .supervisor .sensorHealth = true →
    (∀ q ∈ s₁.last (.supervisor, .sensorHealth), q.1 < s.log.length + 4) →
    (network p).component.Along (ReadsNoSummary p) ((network p).step s₁ summary) gs →
    TimeUtils.isStale t nowHealth p.supervisor.sensorTimeoutNs = false →
    (∀ ev ∈ hs, ev ≠ .input .supervisor .clearFault) →
    s₃.last (.bridge, .state) = some (k, m) → s₂.log.length ≤ k →
    ∀ nowTick, ((s₃.nodes .bridge).controlTick p.bridge nowTick).2 = ⟨0, 0⟩ := by
  intro s n read s₁ summary s₂ s₃ hgrace hsensor hconn hunread hgs hfresh hhs hread hk nowTick
  have hlog : s₁.log[s.log.length + 4]? =
      some (.sensorHealth ((n.prune nowNs).summaryMsg nowNs)) :=
    log_of_published fs (by rw [published_monitorTick hgrace]; rfl)
  have hreads := reads_deliver (c := (t, tRecovered)) (i := .supervisor) hlog hunread hconn rfl
  have hsummary : SafetySupervisorNode.SummaryIs SensorHealth.fault (some t)
      (((network p).step s₁ summary).nodes .supervisor) := by
    rw [Network.nodes_step_self hreads, SensorMonitorNode.summaryMsg_fault_iff.2 ⟨sensor, hsensor⟩]
    exact ⟨rfl, rfl⟩
  have hkept :
      SafetySupervisorNode.SummaryIs SensorHealth.fault (some t) (s₂.nodes .supervisor) := by
    have hrun : s₂ = (network p).component.run ((network p).step s₁ summary) gs :=
      stateAfter_append ..
    rw [hrun]
    exact summaryIs_run hsummary hgs
  have hfault : FaultLatched ((network p).step s₂
      (.input .supervisor (.timerTick now nowLocalization nowHealth order))) := by
    rw [FaultLatched, Network.nodes_step_self (Network.reads_input rfl)]
    exact SafetySupervisorNode.latchedFault_of_faultSummary p.supervisor
      (settled_stateAfter p monitor envelope _) hkept now nowLocalization order hfresh
  obtain ⟨msg, rfl, hmsg⟩ := last_of_latches hfault hhs hread hk
  exact controlTick_of_last hread hmsg nowTick

/-- One message of the lidar in a second is too few for its rate. -/
theorem sensorMsg_oneScan :
    (((bringupMonitor.onMessage .lidar 1).prune 1).sensorMsg 1 .lidar).status =
      SensorHealth.fault := by
  let tracker := ((bringupMonitor.onMessage .lidar 1).prune 1).trackers .lidar
  have hlength : (tracker.msgTimes.length : ℝ) ≤ 1 := by
    have hsuffix : tracker.msgTimes.length ≤ [(1 : UInt64)].length :=
      (List.dropWhile_suffix _).length_le
    exact_mod_cast hsuffix
  have hratio : tracker.rateRatio bringupMonitor.params <
      bringupMonitor.params.degradedThreshold := by
    change (if (0 : ℝ) < 10.0 then tracker.updateRateHz bringupMonitor.params / 10.0
      else 0.0) < 0.5
    unfold SensorTracker.updateRateHz
    split_ifs
    · change (tracker.msgTimes.length : ℝ) / 1.0 / 10.0 < 0.5
      norm_num
      linarith
    all_goals norm_num
  have hhealthy : bringupMonitor.params.degradedThreshold ≤
      bringupMonitor.params.healthyThreshold := by
    change (0.5 : ℝ) ≤ 0.8
    norm_num
  exact SensorTracker.status_of_rateRatio_lt (by exact (by decide : (1 : UInt64) ≠ 0)) hratio
    hhealthy

theorem sensorFault_stops_drive_oneScan :
    let es : List (Event ℝ) :=
      [.input .monitor (.message .lidar 1), .input .monitor (.timerTick 3000000000 1),
        .deliver .supervisor 4 (1, 1), .input .supervisor (.timerTick 1 1 1 []),
        .deliver .bridge 6 (0, 0)]
    (((stateAfter bringup bringupMonitor bringupEnvelope es).nodes .bridge).controlTick
        bringup.bridge 5).2 = ⟨0, 0⟩ := by
  have hgrace : (bringupMonitor.onMessage .lidar 1).inGracePeriod 3000000000 = false := by
    norm_num [bringupMonitor, SensorMonitorNode.onMessage, SensorMonitorNode.updateTracker,
      SensorMonitorNode.inGracePeriod, SensorMonitorNode.kStartupGracePeriodS]
  obtain ⟨nodes, lidar, imu, gps, odometry, summary, htick⟩ :=
    stateAfter_monitorTick bringup bringupMonitor bringupEnvelope
      [.input .monitor (.message .lidar 1)] 1 hgrace
  have htick : stateAfter bringup bringupMonitor bringupEnvelope
      [.input .monitor (.message .lidar 1), .input .monitor (.timerTick 3000000000 1)] = _ := htick
  obtain ⟨m, hread⟩ : ∃ m, ((network bringup).component.run
      (stateAfter bringup bringupMonitor bringupEnvelope
        [.input .monitor (.message .lidar 1), .input .monitor (.timerTick 3000000000 1)])
      [.deliver .supervisor 4 (1, 1), .input .supervisor (.timerTick 1 1 1 []),
        .deliver .bridge 6 (0, 0)]).last (.bridge, .state) = some (6, m) := by
    rw [htick]
    exact ⟨_, rfl⟩
  have hlength : ((network bringup).component.run
      (stateAfter bringup bringupMonitor bringupEnvelope
        [.input .monitor (.message .lidar 1), .input .monitor (.timerTick 3000000000 1)])
      [.deliver .supervisor 4 (1, 1)]).log.length ≤ 6 := by
    rw [htick]
    exact (by decide : 5 ≤ 6)
  refine sensorFault_stops_drive bringup bringupMonitor bringupEnvelope
    [.input .monitor (.message .lidar 1)] [] [] [.deliver .bridge 6 (0, 0)] 3000000000 1 1 1 1 1 1
    [] .lidar hgrace sensorMsg_oneScan rfl ?_ ?_ rfl ?_ hread hlength 5
  · intro q hq
    change q ∈ (stateAfter bringup bringupMonitor bringupEnvelope
      [.input .monitor (.message .lidar 1), .input .monitor (.timerTick 3000000000 1)]).last _ at hq
    rw [htick] at hq
    cases hq
  · exact trivial
  · intro ev hev
    rw [List.mem_singleton.1 hev]
    simp

end Sensor

end SafetyStack

end SafetyCore
