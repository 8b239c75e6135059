import SafetyCore.Ros.SafetyStack.DegradedSpeed
import SafetyCore.Ros.SupervisorNode.FaultReason

/-!
# The causes of a fault

A latched fault of the stack goes back to what its sensors, its clocks and its odometry gave it: an
obstacle inside the buffer, a sensor that was faulty, one that is on record as degraded for too
long, a last odometry stamp that is too old or a clock that ran backwards.
-/

namespace SafetyCore

open Arithmetic Transition

theorem SafetyZone.ofRaw_eq_emergency {raw : UInt8} :
    SafetyZone.ofRaw raw = .emergency ↔ raw = SafetyZone.emergency.toRaw := by
  unfold SafetyZone.ofRaw
  split_ifs with h₀ h₁ h₂ h₃
  · simp [h₀, SafetyZone.toRaw]
  · simp [h₁, SafetyZone.toRaw]
  · simp [h₂, SafetyZone.toRaw]
  · simp [h₃, SafetyZone.toRaw]
  · simp [h₃, SafetyZone.toRaw]

namespace SafetyStack

section Publications

variable {α : Type} [Zero α] [Add α] [Sub α] [Mul α] [Div α] [Neg α] [OfScientific α]
  [NatCast α] [IntCast α] [LT α] [DecidableLT α] [LE α] [DecidableLE α] [FiniteTest α]
  [SquareRoot α] [Trigonometry α] [Casts α] {p : Params α} {s : State α} {ev : Event α} {j : ℕ}

/-- Only a scan publishes an envelope status. -/
theorem exists_scan_of_published {msg : EnvelopeStatusMsg α}
    (h : ((network p).published s ev)[j]? = some (.envelopeStatus msg)) :
    ∃ scan now, ev = .input .envelope (.scan scan now) ∧ j = 0 ∧
      msg = (s.nodes .envelope).onScan scan now := by
  obtain ⟨e, rfl, hpublish⟩ := exists_input_of_published (i := .envelope) h rfl
  cases e with
  | odom linearX => cases hpublish
  | scan scan now =>
      have hlt : j < 1 := (List.getElem?_eq_some_iff.1 hpublish).1
      obtain rfl : j = 0 := by omega
      cases hpublish
      exact ⟨scan, now, rfl, rfl, rfl⟩

/-- Only a tick of the monitor past the grace period publishes a health message: of a sensor, or
last the summary. -/
theorem exists_monitorTick_of_published {msg : SensorHealthMsg α}
    (h : ((network p).published s ev)[j]? = some (.sensorHealth msg)) :
    ∃ clockNs nowNs, ev = .input .monitor (.timerTick clockNs nowNs) ∧
      (s.nodes .monitor).inGracePeriod clockNs = false ∧
        ((∃ sensor, Sensor.all[j]? = some sensor ∧
            msg = ((s.nodes .monitor).prune nowNs).sensorMsg nowNs sensor) ∨
          j = 4 ∧ msg = ((s.nodes .monitor).prune nowNs).summaryMsg nowNs) := by
  obtain ⟨e, rfl, hpublish⟩ := exists_input_of_published (i := .monitor) h rfl
  cases e with
  | message sensor nowNs => cases hpublish
  | publishMetrics nowNs =>
      obtain ⟨out, hout, hsome⟩ := List.mem_filterMap.1 (List.mem_of_getElem? hpublish)
      obtain ⟨sensor, -, rfl⟩ := List.mem_map.1 hout
      cases hsome
  | timerTick clockNs nowNs =>
      cases hgrace : (s.nodes .monitor).inGracePeriod clockNs with
      | true =>
          change (publish .monitor (SensorMonitorNode.timerTick _ _ _).2)[j]? = _ at hpublish
          rw [SensorMonitorNode.timerTick, if_pos hgrace] at hpublish
          cases hpublish
      | false =>
          refine ⟨clockNs, nowNs, rfl, hgrace, ?_⟩
          rw [published_monitorTick hgrace] at h
          rcases Nat.lt_or_ge j Sensor.all.length with hlt | hge
          · rw [List.getElem?_append_left (by simpa using hlt), List.getElem?_map] at h
            obtain ⟨sensor, hsensor, hmsg⟩ := Option.map_eq_some_iff.1 h
            cases hmsg
            exact .inl ⟨sensor, hsensor, rfl⟩
          · rw [List.getElem?_append_right (by simpa using hge), List.length_map] at h
            have hlt : j - Sensor.all.length < 1 := (List.getElem?_eq_some_iff.1 h).1
            obtain rfl : j = 4 := by
              change 4 ≤ j at hge
              change j - 4 < 1 at hlt
              omega
            cases h
            exact .inr ⟨rfl, rfl⟩

end Publications

/-! ## The causes -/

section Causes

variable {K : Type} [Field K] [LinearOrder K] [SquareRoot K] [Trigonometry K] [Casts K]

/-- The scan has its nearest obstacle inside the buffer, past the grace period. -/
def ObstacleInside (n : SafetyEnvelopeNode K) (scan : LaserScan K) (now : ℤ) : Prop :=
  n.inGracePeriod now = false ∧
    ∃ d : K, n.nearestObstacleInFootprintCorridor scan = (d : WithTop K) ∧ 0 ≤ d ∧
      d - n.footprint.frontOverhangM < n.dynamicBuffer (stdMax 0 n.latestSpeedMps)

/-- The tick of the monitor finds the sensor in the status, past the grace period. -/
def FindsSensor (n : SensorMonitorNode K) (clockNs : ℤ) (nowNs : UInt64) (sensor : Sensor)
    (status : UInt8) : Prop :=
  n.inGracePeriod clockNs = false ∧ ((n.prune nowNs).sensorMsg nowNs sensor).status = status

/-- What lies behind a fault that the step `ev` raises after the run `es`. -/
inductive Cause (p : Params K) (monitor : SensorMonitorNode K) (envelope : SafetyEnvelopeNode K)
    (es : List (Event K)) : Event K → Prop
  /-- The status of a scan is delivered. -/
  | obstacle {pre post : List (Event K)} {scan : LaserScan K} {now : ℤ} {c : UInt64 × UInt64}
      (hscan : es = pre ++ .input .envelope (.scan scan now) :: post)
      (hinside : ObstacleInside ((stateAfter p monitor envelope pre).nodes .envelope) scan now) :
      Cause p monitor envelope es
        (.deliver .supervisor (stateAfter p monitor envelope pre).log.length c)
  /-- The last odometry stamp is at least twice the timeout old. -/
  | localization {pre post : List (Event K)} {sec : Int32} {nanosec : UInt32}
      {now nowLocalization nowHealth : UInt64} {order : List String}
      (hodom : es = pre ++ .input .supervisor (.odom sec nanosec) :: post)
      (hlast : ∀ sec' nanosec', .input .supervisor (.odom sec' nanosec') ∉ post)
      (hpos : p.supervisor.localizationTimeoutNs ≠ 0)
      (hlt : p.supervisor.localizationTimeoutNs < TimeUtils.calculateAgeNs
        (SafetySupervisorNode.odomStampNs sec nanosec) nowLocalization)
      (hle : 2 * p.supervisor.localizationTimeoutNs ≤ TimeUtils.calculateAgeNs
        (SafetySupervisorNode.odomStampNs sec nanosec) nowLocalization) :
      Cause p monitor envelope es
        (.input .supervisor (.timerTick now nowLocalization nowHealth order))
  /-- The last summary that was read is that of a tick that found a sensor faulty. It was read at
  `t` and is fresh. -/
  | sensorFault {pre mid before post : List (Event K)} {clockNs : ℤ}
      {nowNs t tRecovered now nowLocalization nowHealth : UInt64} {sensor : Sensor}
      {order : List String}
      (htick : before = pre ++ .input .monitor (.timerTick clockNs nowNs) :: mid)
      (hfinds : FindsSensor ((stateAfter p monitor envelope pre).nodes .monitor) clockNs nowNs
        sensor SensorHealth.fault)
      (hread : es = before ++ .deliver .supervisor
        ((stateAfter p monitor envelope pre).log.length + 4) (t, tRecovered) :: post)
      (hlast : ∀ e ∈ (network p).readsOf .supervisor (stateAfter p monitor envelope
        (before ++ [.deliver .supervisor ((stateAfter p monitor envelope pre).log.length + 4)
          (t, tRecovered)])) post, e.summary = none)
      (hfresh : TimeUtils.isStale t nowHealth p.supervisor.sensorTimeoutNs = false) :
      Cause p monitor envelope es
        (.input .supervisor (.timerTick now nowLocalization nowHealth order))
  /-- The supervisor has the sensor degraded since `t`, when it read the message of a tick that
  found it degraded, and that is too long ago. -/
  | sensorDegraded {pre mid before post : List (Event K)} {clockNs : ℤ} {j : ℕ}
      {nowNs t tRecovered now nowLocalization nowHealth : UInt64} {sensor : Sensor}
      {order : List String}
      (htick : before = pre ++ .input .monitor (.timerTick clockNs nowNs) :: mid)
      (hj : Sensor.all[j]? = some sensor)
      (hfinds : FindsSensor ((stateAfter p monitor envelope pre).nodes .monitor) clockNs nowNs
        sensor SensorHealth.degraded)
      (hread : es = before ++ .deliver .supervisor
        ((stateAfter p monitor envelope pre).log.length + j) (t, tRecovered) :: post)
      (hrecord : ((stateAfter p monitor envelope es).nodes .supervisor).recoveryMgr.degradedSince
        sensor.name = some t)
      (hlate : p.supervisor.recoveryTimeoutNs < now - t) :
      Cause p monitor envelope es
        (.input .supervisor (.timerTick now nowLocalization nowHealth order))
  /-- The tick samples the clock before the sample of the last tick. -/
  | clockRegression {pre post : List (Event K)}
      {before beforeLocalization beforeHealth now nowLocalization nowHealth : UInt64}
      {beforeOrder order : List String}
      (hsample : es = pre ++ .input .supervisor
        (.timerTick before beforeLocalization beforeHealth beforeOrder) :: post)
      (hlast : ∀ t tLocalization tHealth tOrder,
        .input .supervisor (.timerTick t tLocalization tHealth tOrder) ∉ post)
      (hlt : now < before) :
      Cause p monitor envelope es
        (.input .supervisor (.timerTick now nowLocalization nowHealth order))

variable {p : Params K} {monitor : SensorMonitorNode K} {envelope : SafetyEnvelopeNode K}
  {es : List (Event K)} {ev : Event K}

/-- The supervisor after a run of the stack has made the run of what it has read. -/
theorem supervisor_run (p : Params K) (monitor : SensorMonitorNode K)
    (envelope : SafetyEnvelopeNode K) (es : List (Event K)) :
    (stateAfter p monitor envelope es).nodes .supervisor =
      (SafetySupervisorNode.component p.supervisor).run
        (SafetySupervisorNode.initial p.supervisor)
        ((network p).readsOf .supervisor (initial p monitor envelope) es) :=
  Network.nodes_run (N := network p) (initial p monitor envelope) es .supervisor

/-- An emergency that the supervisor reads is the one of a scan. -/
theorem cause_of_emergency {zone : UInt8} (hzone : SafetyZone.ofRaw zone = .emergency)
    (hreads : (network p).reads (stateAfter p monitor envelope es) ev =
      some ⟨.supervisor, .envelope zone⟩) : Cause p monitor envelope es ev := by
  rcases Network.exists_published_of_reads hreads with
    ⟨-, hext⟩ | ⟨c, m, pre, ev', post, j, hacc, hsplit, hpub, rfl⟩
  · cases hext
  · change (if _ then callback .supervisor m c else none) = _ at hacc
    split at hacc
    next =>
      cases m with
      | envelopeStatus msg =>
          obtain ⟨scan, now, rfl, rfl, rfl⟩ := exists_scan_of_published hpub
          refine .obstacle hsplit ?_
          have hraw := SafetySupervisorNode.Event.envelope.inj (Option.some.inj hacc)
          exact (SafetyEnvelopeNode.publishEnvelope_emergency_iff _).1
            (hraw.trans (SafetyZone.ofRaw_eq_emergency.1 hzone))
      | _ => cases hacc
    next => cases hacc

/-- A health message that the supervisor reads is one of a tick of the monitor. -/
theorem exists_monitorTick_of_reads {name : String} {status : UInt8} {t tRecovered : UInt64}
    (hnamed : ∀ es, SensorMonitorNode.Named ((stateAfter p monitor envelope es).nodes .monitor))
    (hreads : (network p).reads (stateAfter p monitor envelope es) ev =
      some ⟨.supervisor, .sensorHealth name status t tRecovered⟩) :
    ∃ pre clockNs nowNs post j, es = pre ++ .input .monitor (.timerTick clockNs nowNs) :: post ∧
      ev = .deliver .supervisor ((stateAfter p monitor envelope pre).log.length + j)
        (t, tRecovered) ∧
      ((stateAfter p monitor envelope pre).nodes .monitor).inGracePeriod clockNs = false ∧
      ((∃ sensor, Sensor.all[j]? = some sensor ∧ name = sensor.name ∧
          status = ((((stateAfter p monitor envelope pre).nodes .monitor).prune nowNs).sensorMsg
            nowNs sensor).status) ∨
        j = 4 ∧ name = "all" ∧
          status = ((((stateAfter p monitor envelope pre).nodes .monitor).prune nowNs).summaryMsg
            nowNs).status) := by
  rcases Network.exists_published_of_reads hreads with
    ⟨-, hext⟩ | ⟨c, m, pre, ev', post, j, hacc, hsplit, hpub, rfl⟩
  · cases hext
  · change (if _ then callback .supervisor m c else none) = _ at hacc
    split at hacc
    next =>
      cases m with
      | sensorHealth msg =>
          obtain ⟨clockNs, nowNs, rfl, hgrace, hmsg⟩ := exists_monitorTick_of_published hpub
          cases hacc
          refine ⟨pre, clockNs, nowNs, post, j, hsplit, rfl, hgrace, ?_⟩
          rcases hmsg with ⟨sensor, hj, rfl⟩ | ⟨rfl, rfl⟩
          · exact .inl ⟨sensor, hj,
              SensorMonitorNode.sensorMsg_sensorName (hnamed pre) nowNs nowNs sensor, rfl⟩
          · exact .inr ⟨rfl, rfl, rfl⟩
      | _ => cases hacc
    next => cases hacc

/-- An event from outside that is read is one of the run, and every later one from outside is read
after it. -/
theorem exists_input_of_readsOf {s : State K} {i : NodeId} {e : NodeEvent K i}
    (hext : external i e = true) {before after : List (NodeEvent K i)}
    (h : (network p).readsOf i s es = before ++ e :: after) :
    ∃ pre post, es = pre ++ .input i e :: post ∧
      ∀ e', external i e' = true → .input i e' ∈ post → e' ∈ after := by
  obtain ⟨pre, ev', post, rfl, hread, -, hpost⟩ := Network.exists_step_of_readsOf h
  obtain rfl := eq_input_of_external hread hext
  exact ⟨pre, post, rfl, fun e' hext' hmem =>
    hpost ▸ Network.mem_readsOf_of_input hext' hmem⟩

/-- The reasons of the supervisor have causes in the run of the stack. -/
theorem cause_of_faultReason {e : SafetySupervisorNode.Event}
    (hnamed : ∀ es, SensorMonitorNode.Named ((stateAfter p monitor envelope es).nodes .monitor))
    (hreads : (network p).reads (stateAfter p monitor envelope es) ev = some ⟨.supervisor, e⟩)
    (h : SafetySupervisorNode.FaultReason p.supervisor
      ((network p).readsOf .supervisor (initial p monitor envelope) es) e) :
    Cause p monitor envelope es ev := by
  cases h with
  | emergency hzone => exact cause_of_emergency hzone hreads
  | localization hodom hlast hpos hlt hle =>
      obtain ⟨pre, post, hes, hlater⟩ := exists_input_of_readsOf rfl hodom
      rw [eq_input_of_external hreads rfl]
      refine .localization hes (fun sec' nanosec' hmem => ?_) hpos hlt hle
      cases hlast _ (hlater _ rfl hmem)
  | sensorFault hsummary hlast hfresh =>
      obtain ⟨pre, ev', post, rfl, hread, -, hpost⟩ := Network.exists_step_of_readsOf hsummary
      obtain ⟨before, clockNs, nowNs, mid, j, hbefore, rfl, hgrace, hmsg⟩ :=
        exists_monitorTick_of_reads hnamed hread
      rw [eq_input_of_external hreads rfl]
      rcases hmsg with ⟨sensor, -, hname, -⟩ | ⟨rfl, -, hstatus⟩
      · exact absurd hname.symm sensor.name_ne_all
      · obtain ⟨sensor, hsensor⟩ := SensorMonitorNode.summaryMsg_fault_iff.1 hstatus.symm
        refine .sensorFault hbefore ⟨hgrace, hsensor⟩ rfl (fun e he => hlast e ?_) hfresh
        rw [stateAfter_append] at he
        rw [← hpost]
        exact he
  | recoveryTimeout hname hdegraded hrecord hlate =>
      obtain ⟨pre, ev', post, hes, hread⟩ := Network.exists_step_of_mem_readsOf hdegraded
      obtain ⟨before, clockNs, nowNs, mid, j, hbefore, rfl, hgrace, hmsg⟩ :=
        exists_monitorTick_of_reads hnamed hread
      rw [eq_input_of_external hreads rfl]
      rcases hmsg with ⟨sensor, hj, rfl, hstatus⟩ | ⟨-, hall, -⟩
      · refine .sensorDegraded hbefore hj ⟨hgrace, hstatus.symm⟩ hes ?_ hlate
        rw [supervisor_run]
        exact hrecord
      · exact absurd hall hname
  | clockRegression hsample hlast hlt =>
      obtain ⟨pre, post, hes, hlater⟩ := exists_input_of_readsOf rfl hsample
      rw [eq_input_of_external hreads rfl]
      refine .clockRegression hes (fun t tLocalization tHealth tOrder hmem => ?_) hlt
      cases hlast _ (hlater _ rfl hmem)

/-- A step that latches a fault has a cause. -/
theorem cause_of_latches
    (hnamed : ∀ es, SensorMonitorNode.Named ((stateAfter p monitor envelope es).nodes .monitor))
    (hbefore : ¬ FaultLatched (stateAfter p monitor envelope es))
    (hafter : FaultLatched ((network p).step (stateAfter p monitor envelope es) ev)) :
    Cause p monitor envelope es ev := by
  rcases (network p).nodes_step_cases (stateAfter p monitor envelope es) ev .supervisor with
    hkeep | ⟨e, hreads, hnext⟩
  · rw [FaultLatched, hkeep] at hafter
    exact absurd hafter hbefore
  · rw [FaultLatched, hnext] at hafter
    refine cause_of_faultReason hnamed hreads
      (SafetySupervisorNode.faultReason_of_raisesFault ?_)
    rw [← supervisor_run]
    have hraises := (SafetySupervisorNode.next_latchedFault p.supervisor e
      (settled_stateAfter p monitor envelope es)).1 hafter
    exact hraises.resolve_right fun h => hbefore h.1

/-- In every run of the stack that was started with a monitor that was constructed: a fault that is
latched at the end was not latched before some step of the run, was latched by that step, which
has a cause, and has been latched ever since, so that it was not cleared. -/
theorem fault_has_cause (p : Params K) {loaded : SensorMonitorParams K} {startupTimeNs : ℤ}
    {monitor : SensorMonitorNode K}
    (hmonitor : SensorMonitorNode.create loaded startupTimeNs = .ok monitor)
    (envelope : SafetyEnvelopeNode K) (es : List (Event K))
    (hfault : FaultLatched (stateAfter p monitor envelope es)) :
    ∃ pre ev post, es = pre ++ ev :: post ∧ Cause p monitor envelope pre ev ∧
      ¬ FaultLatched (stateAfter p monitor envelope pre) ∧
      (∀ mid, mid <+: post → FaultLatched (stateAfter p monitor envelope (pre ++ ev :: mid))) ∧
      ∀ ev' ∈ post, ev' ≠ .input .supervisor .clearFault := by
  have hinitial : ¬ FaultLatched (initial p monitor envelope) := by
    change ¬ SafetySupervisorNode.initialMachine.latchedFault = true
    decide
  obtain ⟨pre, ev, post, rfl, hbefore, hsince⟩ := Component.exists_last_rise hinitial hfault
  refine ⟨pre, ev, post, rfl, cause_of_latches (named_stateAfter hmonitor) hbefore ?_, hbefore,
    hsince, ?_⟩
  · have hlatched := hsince [] List.nil_prefix
    change FaultLatched (stateAfter p monitor envelope (pre ++ [ev])) at hlatched
    rw [stateAfter_append] at hlatched
    exact hlatched
  · rintro ev' hmem rfl
    obtain ⟨mid, rest, rfl⟩ := List.append_of_mem hmem
    have hcleared := hsince (mid ++ [.input .supervisor .clearFault]) ⟨rest, by simp⟩
    have hrun : stateAfter p monitor envelope
        (pre ++ ev :: (mid ++ [.input .supervisor .clearFault])) =
        (network p).step (stateAfter p monitor envelope (pre ++ ev :: mid))
          (.input .supervisor .clearFault) := by
      rw [← List.cons_append, ← List.append_assoc]
      exact stateAfter_append p monitor envelope (pre ++ ev :: mid) _
    change FaultLatched (stateAfter p monitor envelope _) at hcleared
    rw [hrun, FaultLatched, Network.nodes_step_self (Network.reads_input rfl)] at hcleared
    rcases (SafetySupervisorNode.next_latchedFault p.supervisor .clearFault
      (settled_stateAfter p monitor envelope (pre ++ ev :: mid))).1 hcleared with h | ⟨-, h⟩
    · exact h
    · exact h rfl

/-- A clock runs backwards between two ticks, and the second tick is the step with the cause. -/
theorem fault_has_cause_regression :
    let es : List (Event ℝ) := [.input .supervisor (.timerTick 2 2 2 []),
      .input .supervisor (.timerTick 1 1 1 []), .deliver .bridge 4 (0, 0)]
    ∃ pre ev post, es = pre ++ ev :: post ∧ Cause bringup bringupMonitor bringupEnvelope pre ev ∧
      ¬ FaultLatched (stateAfter bringup bringupMonitor bringupEnvelope pre) ∧
      (∀ mid, mid <+: post →
        FaultLatched (stateAfter bringup bringupMonitor bringupEnvelope (pre ++ ev :: mid))) ∧
      ∀ ev' ∈ post, ev' ≠ .input .supervisor .clearFault :=
  fault_has_cause bringup create_bringupMonitor bringupEnvelope _ rfl

end Causes

end SafetyStack

end SafetyCore
