import SafetyCore.Ros.SupervisorNode.Tick

/-!
# The speed limit while a sensor is degraded

While some sensor is recorded as degraded, the controller holds at most half of
the maximal speed. A sensor whose last message reported it degraded is recorded
so, with one exception: `timed_out` is never reset, and a sensor that has timed
out once is ignored when it degrades again. `halvedWhileDegraded` shows that in
the runs without such a message the published limit is right.
-/

namespace SafetyCore

open Transition SensorRecoveryManager

namespace SafetySupervisorNode

/-- The status that a health message of the sensor carries. -/
def Event.statusOf (name : String) : Event → Option UInt8
  | .sensorHealth sensorName status _ _ =>
      if sensorName = name then some status else none
  | _ => none

/-- The readings of the clock that a callback makes, in order. -/
def Event.clockReadings : Event → List UInt64
  | .sensorHealth _ _ now nowRecovered => [now, nowRecovered]
  | .timerTick now nowLocalization nowHealth _ => [now, nowLocalization, nowHealth]
  | _ => []

section Definitions

variable {α : Type*}

/-- The step is a health message of a single sensor that reports it degraded and
is ignored. -/
def IgnoresDegraded (n : SafetySupervisorNode α) (e : Event) : Prop :=
  ∃ sensorName status now nowRecovered,
    e = .sensorHealth sensorName status now nowRecovered ∧ sensorName ≠ "all" ∧
      n.recoveryMgr.Ignores sensorName status

/-- Every sensor whose last message reported it degraded is recorded so. -/
def RecordsLast (es : List Event) (n : SafetySupervisorNode α) : Prop :=
  ∀ name ≠ "all", lastValue (Event.statusOf name) es = some SensorHealth.degraded →
    n.recoveryMgr.RecordsDegraded name

end Definitions

/-! ## The records of the sensors -/

section Records

variable {α : Type*} {n : SafetySupervisorNode α}

section Checked

variable [Zero α] [LE α] {p : Params α}

theorem isAnyDegraded_checked {now nowLocalization nowHealth : UInt64}
    {order : List String}
    (h : (n.checked p now nowLocalization nowHealth order).recoveryMgr.isAnyDegraded =
      true) : n.recoveryMgr.isAnyDegraded = true := by
  obtain ⟨r, hr, hstates⟩ := checked_sensorStates p n now nowLocalization nowHealth order
  rw [← isAnyDegraded_congr hr]
  rcases hstates with hstates | hstates
  · rwa [isAnyDegraded_congr hstates] at h
  · rw [isAnyDegraded_congr hstates] at h
    exact isAnyDegraded_of_checkTimeouts h

theorem recordsDegraded_checked (now nowLocalization nowHealth : UInt64)
    (order : List String) {name : String} (h : n.recoveryMgr.RecordsDegraded name) :
    (n.checked p now nowLocalization nowHealth order).recoveryMgr.RecordsDegraded
      name := by
  obtain ⟨r, hr, hstates⟩ := checked_sensorStates p n now nowLocalization nowHealth order
  have hrecords : r.RecordsDegraded name := h.congr hr
  rcases hstates with hstates | hstates
  · exact hrecords.congr hstates
  · exact (recordsDegraded_checkTimeouts _ _ order hrecords).congr hstates

end Checked

theorem onSensorHealth_sensorStates [Mul α] [OfScientific α]
    {sensorName : String} (hall : sensorName ≠ "all") (status : UInt8) (now nowRecovered : UInt64) :
    (n.onSensorHealth sensorName status now nowRecovered).recoveryMgr.sensorStates =
      (n.recoveryMgr.processHealthMsg sensorName status now).1.sensorStates := by
  unfold onSensorHealth
  rw [if_neg hall]
  dsimp only
  split
  · obtain ⟨_, heq⟩ := handleSensorDegraded_frame { n with recoveryMgr :=
      (n.recoveryMgr.processHealthMsg sensorName status now).1 }
    rw [heq]
    rfl
  · rcases handleSensorRecovered_frame { n with recoveryMgr :=
      (n.recoveryMgr.processHealthMsg sensorName status now).1 } nowRecovered
      with ⟨-, heq⟩ | ⟨-, _, heq⟩
    · rw [heq]
    · rw [heq]
      rfl
  · rfl

/-- A message that is not ignored keeps the records right. -/
theorem recordsLast_onSensorHealth [Mul α] [OfScientific α] {es : List Event}
    {sensorName : String} {status : UInt8} {now nowRecovered : UInt64}
    (h : RecordsLast es n)
    (hignore : ¬ IgnoresDegraded n (.sensorHealth sensorName status now nowRecovered)) :
    RecordsLast (es ++ [.sensorHealth sensorName status now nowRecovered])
      (n.onSensorHealth sensorName status now nowRecovered) := by
  intro name hname hlast
  rw [lastValue_concat] at hlast
  by_cases hself : sensorName = name
  · subst hself
    have hstatus : status = SensorHealth.degraded := by
      simpa [Event.statusOf] using hlast
    subst hstatus
    have hnot : ¬ n.recoveryMgr.Ignores sensorName SensorHealth.degraded :=
      fun hq => hignore ⟨_, _, _, _, rfl, hname, hq⟩
    exact (recordsDegraded_processHealthMsg hnot).congr
      (onSensorHealth_sensorStates hname _ now nowRecovered)
  · have hbefore : n.recoveryMgr.RecordsDegraded name :=
      h name hname (by simpa [Event.statusOf, hself] using hlast)
    by_cases hall : sensorName = "all"
    · unfold onSensorHealth
      rw [if_pos hall]
      exact hbefore
    · obtain ⟨info, hfind, hd⟩ := hbefore
      have hkept : (n.recoveryMgr.processHealthMsg sensorName status
          now).1.RecordsDegraded name :=
        ⟨info, (processHealthMsg_find_of_ne (Ne.symm hself)).trans hfind, hd⟩
      exact hkept.congr (onSensorHealth_sensorStates hall status now nowRecovered)

/-- A callback that carries no status of a sensor keeps the records right, if it
keeps them. -/
theorem recordsLast_of_silent {es : List Event} {e : Event}
    {m : SafetySupervisorNode α} (h : RecordsLast es n)
    (he : ∀ name, e.statusOf name = none)
    (hm : ∀ name, n.recoveryMgr.RecordsDegraded name →
      m.recoveryMgr.RecordsDegraded name) : RecordsLast (es ++ [e]) m := by
  intro name hname hlast
  rw [lastValue_concat, he name] at hlast
  exact hm name (h name hname (by simpa using hlast))

variable [Zero α] [Add α] [Sub α] [Mul α] [Div α] [OfScientific α] [NatCast α] [LE α]
  {p : Params α}

theorem recordsLast_next {es : List Event} {e : Event} (h : RecordsLast es n)
    (hignore : ¬ IgnoresDegraded n e) :
    RecordsLast (es ++ [e]) ((component p).next n e) := by
  cases e with
  | sensorHealth sensorName status now nowRecovered =>
      exact recordsLast_onSensorHealth h hignore
  | envelope zone =>
      obtain ⟨_, _, heq⟩ := onEnvelope_frame p n zone
      refine recordsLast_of_silent h (fun _ => rfl) fun name hname => ?_
      change (n.onEnvelope p zone).recoveryMgr.RecordsDegraded name
      rwa [heq]
  | odom sec nanosec => exact recordsLast_of_silent h (fun _ => rfl) fun _ => id
  | clearFault =>
      obtain ⟨_, heq⟩ := n.onClearFault_frame
      refine recordsLast_of_silent h (fun _ => rfl) fun name hname => ?_
      change n.onClearFault.1.recoveryMgr.RecordsDegraded name
      rwa [heq]
  | timerTick now nowLocalization nowHealth order =>
      exact recordsLast_of_silent h (fun _ => rfl) fun name hname =>
        recordsDegraded_checked now nowLocalization nowHealth order hname

end Records

/-! ## The limit -/

section Runs

variable {K : Type*} [Field K] [LinearOrder K] [IsStrictOrderedRing K] (p : Params K)

/-- While a sensor is recorded as degraded, the controller holds half of the
maximal speed. -/
structure HoldsLimit (n : SafetySupervisorNode K) : Prop where
  maxSpeed : n.speedCtrl.maxSpeedMps = p.maxSpeedMps
  half : n.recoveryMgr.isAnyDegraded = true → n.speedCtrl.HoldsHalf

/-- Whenever a tick of the run publishes a limit while the last message of some
sensor reported it degraded, the limit is at most half of the maximal speed. -/
def HalvedWhileDegraded (es : List Event) : Prop :=
  ∀ pre now nowLocalization nowHealth order post,
    es = pre ++ .timerTick now nowLocalization nowHealth order :: post →
    (∃ name ≠ "all",
      lastValue (Event.statusOf name) pre = some SensorHealth.degraded) →
    ∀ limit state safeStop,
      (component p).output ((component p).run (initial p) pre)
          (.timerTick now nowLocalization nowHealth order) = .tick limit state safeStop →
        limit ≤ p.maxSpeedMps / 2

variable {p} {n : SafetySupervisorNode K}

/-! ## The records and the limit after each callback -/

omit [IsStrictOrderedRing K] in
theorem HoldsLimit.maxSpeed_nonneg (h : HoldsLimit p n) :
    0 ≤ n.speedCtrl.maxSpeedMps := by
  rw [h.maxSpeed]
  exact (not_le.1 p.maxSpeedMps_valid).le

theorem holdsLimit_handleSensorDegraded (h : n.speedCtrl.maxSpeedMps = p.maxSpeedMps) :
    HoldsLimit p n.handleSensorDegraded := by
  obtain ⟨_, heq⟩ := n.handleSensorDegraded_frame
  rw [heq]
  exact ⟨h, fun _ => SpeedLimitController.holdsHalf_onDegraded _⟩

omit [IsStrictOrderedRing K] in
theorem holdsLimit_handleSensorRecovered (now : UInt64) (h : HoldsLimit p n) :
    HoldsLimit p (n.handleSensorRecovered now) := by
  rcases n.handleSensorRecovered_frame now with ⟨-, heq⟩ | ⟨hnone, _, heq⟩
  · rwa [heq]
  · rw [heq]
    refine ⟨h.maxSpeed, fun hany => ?_⟩
    have hany' : n.recoveryMgr.isAnyDegraded = true := hany
    rw [hnone] at hany'
    cases hany'

theorem holdsLimit_onSensorHealth (sensorName : String) (status : UInt8)
    (now nowRecovered : UInt64) (h : HoldsLimit p n) :
    HoldsLimit p (n.onSensorHealth sensorName status now nowRecovered) := by
  unfold onSensorHealth
  by_cases hall : sensorName = "all"
  · rw [if_pos hall]
    exact ⟨h.maxSpeed, h.half⟩
  · rw [if_neg hall]
    by_cases hk : (n.recoveryMgr.processHealthMsg sensorName status now).2 = .kDegraded
    · simp only [hk]
      exact holdsLimit_handleSensorDegraded h.maxSpeed
    · have hstored : HoldsLimit p { n with recoveryMgr :=
          (n.recoveryMgr.processHealthMsg sensorName status now).1 } :=
        ⟨h.maxSpeed, fun hany => h.half (isAnyDegraded_of_processHealthMsg hk hany)⟩
      dsimp only
      split
      · exact absurd ‹_› hk
      · exact holdsLimit_handleSensorRecovered nowRecovered hstored
      · exact hstored

theorem holdsLimit_timerTick (now nowLocalization nowHealth : UInt64)
    (order : List String) (h : HoldsLimit p n) :
    HoldsLimit p (n.timerTick p now nowLocalization nowHealth order).1 := by
  obtain ⟨safeStop, heq⟩ := timerTick_speedCtrl p n now nowLocalization nowHealth
    order
  refine ⟨?_, fun hany => ?_⟩
  · rw [heq, SpeedLimitController.update_maxSpeedMps, h.maxSpeed]
  · rw [heq]
    exact ((h.half (isAnyDegraded_checked hany)).update h.maxSpeed_nonneg now safeStop).1

variable (p)

theorem holdsLimit_preserved : (component p).Preserved (HoldsLimit p) := by
  intro n e h
  cases e with
  | envelope zone =>
      obtain ⟨_, _, heq⟩ := onEnvelope_frame p n zone
      change HoldsLimit p (n.onEnvelope p zone)
      rw [heq]
      exact ⟨h.maxSpeed, h.half⟩
  | odom sec nanosec => exact ⟨h.maxSpeed, h.half⟩
  | sensorHealth sensorName status now nowRecovered =>
      exact holdsLimit_onSensorHealth sensorName status now nowRecovered h
  | clearFault =>
      obtain ⟨_, heq⟩ := n.onClearFault_frame
      change HoldsLimit p n.onClearFault.1
      rw [heq]
      exact ⟨h.maxSpeed, h.half⟩
  | timerTick now nowLocalization nowHealth order =>
      exact holdsLimit_timerTick now nowLocalization nowHealth order h

omit [IsStrictOrderedRing K] in
theorem holdsLimit_initial : HoldsLimit p (initial p) :=
  ⟨rfl, fun hany => by simp [initial, isAnyDegraded] at hany⟩

/-- In a run in which no message that reports a sensor degraded is ignored, every
limit published while the last message of some sensor reported it degraded is at
most half of the maximal speed. -/
theorem halvedWhileDegraded (es : List Event)
    (hes : (component p).Along (fun n e => ¬ IgnoresDegraded n e) (initial p) es) :
    HalvedWhileDegraded p es := by
  rintro pre now nowLocalization nowHealth order post rfl ⟨name, hname, hlast⟩
    limit state safeStop hout
  have hpre := ((component p).along_append _ (initial p) pre _).1 hes
  have hrecords : RecordsLast pre ((component p).run (initial p) pre) :=
    hpre.1.history (fun _ _ h => by cases h) fun _ _ _ hignore h =>
      recordsLast_next h hignore
  have hlimit : HoldsLimit p ((component p).run (initial p) pre) :=
    (holdsLimit_preserved p).run (holdsLimit_initial p) pre
  have hany := (hrecords name hname hlast).isAnyDegraded
  generalize (component p).run (initial p) pre = n at hout hlimit hany
  obtain ⟨stop, heq⟩ := timerTick_speedCtrl p n now nowLocalization nowHealth
    order
  have hle := ((hlimit.half hany).update hlimit.maxSpeed_nonneg now stop).2
  rw [← heq, hlimit.maxSpeed] at hle
  cases hout
  exact hle

end Runs

/-- A sensor degrades while the robot moves, and the limit drops to 0.75 m/s. -/
theorem halvedWhileDegraded_once :
    HalvedWhileDegraded Params.default
      [.envelope 0, .sensorHealth "lidar" SensorHealth.degraded 1 1,
        .timerTick 2 2 2 ["lidar"]] := by
  refine halvedWhileDegraded Params.default _ ⟨?_, ?_, ?_, trivial⟩
  · rintro ⟨_, _, _, _, heq, -⟩
    cases heq
  · rintro ⟨_, _, _, _, heq, -, -, info, hfind, -⟩
    cases heq
    have hnone : ((component Params.default).next (initial Params.default)
      (.envelope 0)).recoveryMgr.find "lidar" = none := by decide +kernel
    rw [hnone] at hfind
    cases hfind
  · rintro ⟨_, _, _, _, heq, -⟩
    cases heq

/-- A sensor degrades, times out after 10 s, recovers after the fault has been
cleared, and degrades again: the ticks go on publishing the maximal speed. -/
theorem not_always_halvedWhileDegraded :
    ¬ ∀ (p : Params ℚ) (es : List Event),
      (es.flatMap Event.clockReadings).Pairwise (· ≤ ·) →
      HalvedWhileDegraded p es := by
  intro h
  have hlimit := h Params.default
    [.sensorHealth "lidar" SensorHealth.degraded 1 1,
      .timerTick 11000000000 11000000000 11000000000 ["lidar"], .clearFault,
      .sensorHealth "lidar" SensorHealth.healthy 12000000000 12000000000,
      .timerTick 18000000000 18000000000 18000000000 ["lidar"],
      .sensorHealth "lidar" SensorHealth.degraded 19000000000 19000000000,
      .timerTick 20000000000 20000000000 20000000000 ["lidar"]]
    (by decide)
    [.sensorHealth "lidar" SensorHealth.degraded 1 1,
      .timerTick 11000000000 11000000000 11000000000 ["lidar"], .clearFault,
      .sensorHealth "lidar" SensorHealth.healthy 12000000000 12000000000,
      .timerTick 18000000000 18000000000 18000000000 ["lidar"],
      .sensorHealth "lidar" SensorHealth.degraded 19000000000 19000000000]
    20000000000 20000000000 20000000000 ["lidar"] [] rfl
    ⟨"lidar", by decide, by decide⟩ _ _ _ rfl
  exact absurd hlimit (by decide +kernel)

end SafetySupervisorNode

end SafetyCore
