import SafetyCore.Ros.SafetyStack.ClearedStop
import SafetyCore.Ros.SafetyStack.FaultCause

/-!
# When the stop is for ever

A sensor that has timed out once is spent: its mark is never taken back, and with the mark it
degrades no more, so it does not recover either. Once every sensor of the monitor is spent, nothing
that can still happen raises the speed limit after a stop.
-/

namespace SafetyCore

open Arithmetic Transition

namespace SensorRecoveryManager

/-- The sensor has timed out, and is not recorded as degraded any more. -/
def Spent (r : SensorRecoveryManager) (name : String) : Prop :=
  ∃ info, r.find name = some info ∧ info.timedOut = true ∧ info.status ≠ SensorHealth.degraded

theorem Spent.congr {r r' : SensorRecoveryManager} {name : String} (h : r.Spent name)
    (hr : r'.sensorStates = r.sensorStates) : r'.Spent name := by
  rw [Spent, find, ← hr] at h
  exact h

/-- A spent sensor makes no transition, and stays spent whatever is reported. -/
theorem Spent.processHealthMsg {r : SensorRecoveryManager} {name : String} (h : r.Spent name)
    (other : String) (status : UInt8) (now : UInt64) :
    (r.processHealthMsg other status now).1.Spent name ∧
      (other = name → (r.processHealthMsg other status now).2 = .kNone) := by
  obtain ⟨info, hfind, hmark, hstatus⟩ := h
  by_cases hother : other = name
  · subst hother
    have hstore : ∀ info', info'.timedOut = true → info'.status ≠ SensorHealth.degraded →
        (r.assign other info').Spent other := by
      intro info' hmark' hstatus'
      have hassign : r.assign other info' = r.store other info' := by
        simp [store, hfind]
      rw [hassign]
      exact ⟨info', find_store_self info', hmark', hstatus'⟩
    unfold SensorRecoveryManager.processHealthMsg
    simp only [hfind, hmark, Bool.true_and, decide_eq_true_eq]
    split_ifs with hdegraded _ hrecovers hfault
    · exact ⟨⟨info, hfind, hmark, hstatus⟩, fun _ => rfl⟩
    · exact ⟨⟨info, hfind, hmark, hstatus⟩, fun _ => rfl⟩
    · simp [hstatus] at hrecovers
    · exact ⟨hstore _ rfl hdegraded, fun _ => rfl⟩
    · exact ⟨hstore _ rfl hdegraded, fun _ => rfl⟩
  · refine ⟨⟨info, ?_, hmark, hstatus⟩, fun h => absurd h hother⟩
    rw [processHealthMsg_find_of_ne (Ne.symm hother), hfind]

theorem Spent.checkTimeouts {r : SensorRecoveryManager} {name : String} (h : r.Spent name)
    (now timeout : UInt64) (order : List String) :
    (r.checkTimeouts now timeout order).1.Spent name := by
  rcases r.checkTimeouts_fst now timeout order with heq | ⟨expiredName, old, hold, hd, heq⟩
  · rwa [heq]
  · obtain ⟨info, hfind, hmark, hstatus⟩ := h
    have hname : name ≠ expiredName := by
      rintro rfl
      cases hfind.symm.trans hold
      exact hstatus hd
    rw [heq]
    exact ⟨info, (find_store_of_ne hname _).trans hfind, hmark, hstatus⟩

end SensorRecoveryManager

namespace SafetySupervisorNode

variable {α : Type*} [Zero α] [Add α] [Sub α] [Mul α] [Div α] [OfScientific α] [NatCast α]
  [LE α] {p : Params α} {n : SafetySupervisorNode α} {name : String}

theorem spent_next (e : Event) (h : n.recoveryMgr.Spent name) :
    ((component p).next n e).recoveryMgr.Spent name := by
  cases e with
  | envelope zone =>
      obtain ⟨_, _, heq⟩ := onEnvelope_frame p n zone
      change (n.onEnvelope p zone).recoveryMgr.Spent name
      rwa [heq]
  | odom sec nanosec => exact h
  | sensorHealth sensorName status now nowRecovered =>
      change (n.onSensorHealth sensorName status now nowRecovered).recoveryMgr.Spent name
      by_cases hall : sensorName = "all"
      · unfold onSensorHealth
        rw [if_pos hall]
        exact h
      · exact (h.processHealthMsg sensorName status now).1.congr
          (onSensorHealth_sensorStates hall status now nowRecovered)
  | clearFault =>
      obtain ⟨_, heq⟩ := n.onClearFault_frame
      change n.onClearFault.1.recoveryMgr.Spent name
      rwa [heq]
  | timerTick now nowLocalization nowHealth order =>
      obtain ⟨r, hr, hstates⟩ := checked_sensorStates p n now nowLocalization nowHealth order
      change (n.checked p now nowLocalization nowHealth order).recoveryMgr.Spent name
      rcases hstates with hstates | hstates
      · exact (h.congr hr).congr hstates
      · exact ((h.congr hr).checkTimeouts now p.recoveryTimeoutNs order).congr hstates

end SafetySupervisorNode

namespace SafetyStack

variable {K : Type} [Field K] [LinearOrder K] [SquareRoot K] [Trigonometry K] [Casts K]
  {p : Params K} {monitor : SensorMonitorNode K} {envelope : SafetyEnvelopeNode K}

/-- Every sensor of the monitor is spent in the supervisor. -/
def AllSpent (s : State K) : Prop :=
  ∀ sensor : Sensor, (s.nodes .supervisor).recoveryMgr.Spent sensor.name

theorem allSpent_preserved (p : Params K) : (network p).component.Preserved AllSpent :=
  fun s ev h sensor => Network.preserved_lift (N := network p) (i := .supervisor)
    (I := fun n : SafetySupervisorNode K => n.recoveryMgr.Spent sensor.name)
    (fun _ e hn => SafetySupervisorNode.spent_next e hn) s ev (h sensor)

/-- The messages that arrive are about spent sensors only. -/
theorem keepsLimit_of_allSpent
    (hnamed : ∀ es, SensorMonitorNode.Named ((stateAfter p monitor envelope es).nodes .monitor))
    {es : List (Event K)} (h : AllSpent (stateAfter p monitor envelope es)) (ev : Event K) :
    KeepsLimit p (stateAfter p monitor envelope es) ev := by
  rintro e hreads ⟨name, status, t, tRecovered, rfl, hall, hmoves⟩
  obtain ⟨pre, clockNs, nowNs, post, j, -, -, -, ⟨sensor, -, rfl, -⟩ | ⟨-, hname, -⟩⟩ :=
    exists_monitorTick_of_reads hnamed hreads
  · exact hmoves (((h sensor).processHealthMsg sensor.name status t).2 rfl)
  · exact hall hname

theorem along_keepsLimit_of_allSpent
    (hnamed : ∀ es, SensorMonitorNode.Named ((stateAfter p monitor envelope es).nodes .monitor))
    {es : List (Event K)} (h : AllSpent (stateAfter p monitor envelope es))
    (fs : List (Event K)) :
    (network p).component.Along (KeepsLimit p) (stateAfter p monitor envelope es) fs := by
  induction fs generalizing es with
  | nil => trivial
  | cons ev fs ih =>
      have hstep : stateAfter p monitor envelope (es ++ [ev]) =
          (network p).step (stateAfter p monitor envelope es) ev := stateAfter_append ..
      refine ⟨keepsLimit_of_allSpent hnamed h ev, ?_⟩
      change (network p).component.Along _ ((network p).step _ ev) fs
      rw [← hstep]
      exact ih (hstep ▸ allSpent_preserved p _ ev h)

/-- From a tick of the supervisor on that begins with a latched fault while every sensor of the
monitor is spent, the drive is commanded no speed outside of a stop profile, as soon as the bridge
has read a recovery speed limit published since: in every continuation of the run. -/
theorem spent_sensors_hold_drive [IsStrictOrderedRing K] (p : Params K)
    {loaded : SensorMonitorParams K} {startupTimeNs : ℤ} {monitor : SensorMonitorNode K}
    (hmonitor : SensorMonitorNode.create loaded startupTimeNs = .ok monitor)
    (envelope : SafetyEnvelopeNode K) (es fs : List (Event K))
    (now nowLocalization nowHealth : UInt64) (order : List String) {k : ℕ} {m : Message K} :
    let s := stateAfter p monitor envelope es
    let tick : Event K := .input .supervisor (.timerTick now nowLocalization nowHealth order)
    let s' := stateAfter p monitor envelope (es ++ tick :: fs)
    let b : SafetyDriveBridgeNode K := s'.nodes .bridge
    FaultLatched s → AllSpent s →
    s'.last (.bridge, .recoverySpeedLimit) = some (k, m) → s.log.length ≤ k →
    ¬ FollowsProfile b →
    ∀ nowTick, (b.controlTick p.bridge nowTick).2.linearX = 0 := by
  intro s tick s' b hfault hspent hread hk hprofile nowTick
  have hnamed (es) : SensorMonitorNode.Named ((stateAfter p monitor envelope es).nodes .monitor) :=
    named_stateAfter hmonitor es
  have halong := along_keepsLimit_of_allSpent hnamed hspent (tick :: fs)
  obtain rfl := recoveryLimit_of_stop hfault halong.2 hread hk
  have hle := controlTick_of_recoveryLimit hread hprofile nowTick
  rw [max_self] at hle
  exact abs_nonpos_iff.1 hle

/-! ## A run that comes there -/

section Spending

/-- No scan is read in this run, so the two classes have any functions. -/
local instance : SquareRoot ℚ := ⟨fun x => x⟩

local instance : Trigonometry ℚ := ⟨fun _ => 1, fun _ => 0⟩

/-- A monitor to which one message in a second is degraded. -/
def slowRates : SensorMonitorParams ℚ where
  lidarExpectedRate := 1.6
  imuExpectedRate := 1.6
  gpsExpectedRate := 1.6
  odometryExpectedRate := 1.6

def slowMonitor : SensorMonitorNode ℚ where
  params := slowRates
  trackers := fun sensor =>
    { sensorName := sensor.name, expectedRateHz := sensor.expectedRate slowRates }
  startupTimeNs := 0

theorem create_slowMonitor : SensorMonitorNode.create slowRates 0 = .ok slowMonitor :=
  SensorMonitorNode.create_eq_ok (by norm_num [slowRates]) (by norm_num [slowRates])
    (by norm_num [slowRates]) (by norm_num [slowRates]) 0

theorem ratSpeed_valid : ¬ (1.5 : ℚ) ≤ 0 := by norm_num

theorem ratStop_valid : ¬ (1.0 : ℚ) ≤ 0 := by norm_num

def ratParams : Params ℚ where
  supervisor := SafetySupervisorNode.Params.default
  bridge :=
    { maxLinearMps := 1.5
      maxAngularRadps := 1.5
      maxDecelMps2 := 1.0
      maxJerkMps3 := 1.0
      controlPeriodS := 1.0
      cmdFreshnessTimeoutNs := 250000000
      maxLinearMps_valid := ratSpeed_valid
      maxAngularRadps_valid := ratSpeed_valid
      maxDecelMps2_valid := ratStop_valid
      maxJerkMps3_valid := ratStop_valid
      controlPeriodS_valid := ratStop_valid }
  compatible := Qos.offersAll

/-- All sensors degrade, time out one after the other, and are faulty in the end. The fault of the
last one is still latched. -/
def spendingRun : List (Event ℚ) :=
  (Sensor.all.map fun sensor => .input .monitor (.message sensor 1)) ++
    [.input .monitor (.timerTick 3000000000 1), .deliver .supervisor 0 (1, 1),
      .deliver .supervisor 1 (1, 1), .deliver .supervisor 2 (1, 1), .deliver .supervisor 3 (1, 1),
      .input .supervisor (.timerTick 20000000000 20000000000 20000000000 ["lidar"]),
      .input .supervisor .clearFault,
      .input .supervisor (.timerTick 20000000000 20000000000 20000000000 ["imu"]),
      .input .supervisor .clearFault,
      .input .supervisor (.timerTick 20000000000 20000000000 20000000000 ["gps"]),
      .input .supervisor .clearFault,
      .input .supervisor (.timerTick 20000000000 20000000000 20000000000 ["odometry"]),
      .input .monitor (.timerTick 25000000000 25000000000), .deliver .supervisor 17 (2, 2),
      .deliver .supervisor 18 (2, 2), .deliver .supervisor 19 (2, 2),
      .deliver .supervisor 20 (2, 2)]

/-- The fault is cleared, and the bridge reads the limit and the state of the next tick. -/
theorem spent_sensors_hold_drive_spendingRun :
    let fs : List (Event ℚ) :=
      [.input .supervisor .clearFault,
        .input .supervisor (.timerTick 25000000000 25000000000 25000000000 []),
        .deliver .bridge 25 (0, 0), .deliver .bridge 26 (0, 0),
        .input .bridge (.cmdVelNav ⟨1.0, 0⟩ 5)]
    let b : SafetyDriveBridgeNode ℚ := (stateAfter ratParams slowMonitor (.membersOf {} 0)
      (spendingRun ++ .input .supervisor
        (.timerTick 25000000000 25000000000 25000000000 []) :: fs)).nodes .bridge
    b.faultLatched = false ∧ (b.controlTick ratParams.bridge 5).2.linearX = 0 := by
  intro fs b
  have hmanager : ((stateAfter ratParams slowMonitor (.membersOf {} 0) spendingRun).nodes
      .supervisor).recoveryMgr.sensorStates =
        Sensor.all.map fun sensor => (sensor.name, ⟨SensorHealth.fault, none, true⟩) := by
    decide +kernel
  have hspent : AllSpent (stateAfter ratParams slowMonitor (.membersOf {} 0) spendingRun) := by
    intro sensor
    refine ⟨⟨SensorHealth.fault, none, true⟩, ?_, rfl, by decide⟩
    rw [SensorRecoveryManager.find, hmanager]
    cases sensor <;> decide
  have hfault : ((stateAfter ratParams slowMonitor (.membersOf {} 0) spendingRun).nodes
      .supervisor).machine.latchedFault = true := by
    decide +kernel
  have hlog : (stateAfter ratParams slowMonitor (.membersOf {} 0) spendingRun).log.length ≤ 25 := by
    decide +kernel
  have hread : ((stateAfter ratParams slowMonitor (.membersOf {} 0) (spendingRun ++
      .input .supervisor (.timerTick 25000000000 25000000000 25000000000 []) :: fs)).last
        (.bridge, .recoverySpeedLimit)).map Prod.fst = some 25 := by
    decide +kernel
  have hflags : b.faultLatched = false ∧ b.safeStopActive = false := by
    decide +kernel
  obtain ⟨⟨k, m⟩, hlast, rfl⟩ := Option.map_eq_some_iff.1 hread
  exact ⟨hflags.1, spent_sensors_hold_drive ratParams create_slowMonitor (.membersOf {} 0)
    spendingRun fs 25000000000 25000000000 25000000000 [] hfault hspent hlast hlog
    (fun hprofile => Bool.false_ne_true (hflags.2.symm.trans hprofile.2)) 5⟩

end Spending

end SafetyStack

end SafetyCore
