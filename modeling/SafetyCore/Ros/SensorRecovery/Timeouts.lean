import SafetyCore.Ros.SensorRecovery
import SafetyCore.Transition.Component

/-!
# The timeouts of the sensors

A scan names one expired sensor and marks it as timed out, so the scans of one tick take the
expired sensors out one at a time. Which one a scan finds first is up to the order in which
the hash map is visited; what all of them find is not.
-/

namespace SafetyCore

open Transition

/-- A sensor that has timed out: it is not waited for any more. -/
def SensorRecoveryInfo.timeOut (info : SensorRecoveryInfo) : SensorRecoveryInfo :=
  { info with timedOut := true, degradationStartNs := none }

namespace SensorRecoveryManager

/-- One scan of the map, in the order in which it is visited. -/
structure Scan where
  nowNs : UInt64
  recoveryTimeoutNs : UInt64
  order : List String
  deriving DecidableEq, Repr

/-- The manager driven by scans alone. -/
def scans : Component SensorRecoveryManager Scan String where
  next r scan := (r.checkTimeouts scan.nowNs scan.recoveryTimeoutNs scan.order).1
  output r scan := (r.checkTimeouts scan.nowNs scan.recoveryTimeoutNs scan.order).2

def sensorNames (r : SensorRecoveryManager) : List String := r.sensorStates.map Prod.fst

/-- The sensor is degraded, and its degradation started more than the timeout before now. -/
def Overdue (nowNs recoveryTimeoutNs : UInt64) (r : SensorRecoveryManager) (name : String) :
    Prop :=
  ∃ info startNs, r.find name = some info ∧ info.status = SensorHealth.degraded ∧
    info.degradationStartNs = some startNs ∧
    startNs.toNat + recoveryTimeoutNs.toNat < nowNs.toNat

/-- Mark the sensors that are named as timed out. -/
def timeOutAll (names : List String) (r : SensorRecoveryManager) : SensorRecoveryManager :=
  { r with
    sensorStates := r.sensorStates.map fun entry =>
      (entry.1, if entry.1 ∈ names then entry.2.timeOut else entry.2) }

variable {r : SensorRecoveryManager} {names : List String} {name : String}
  {nowNs recoveryTimeoutNs : UInt64} {order : List String}

/-! ## The names of the map -/

@[simp] theorem sensorNames_timeOutAll (names : List String) (r : SensorRecoveryManager) :
    (r.timeOutAll names).sensorNames = r.sensorNames := by
  rw [sensorNames, sensorNames, timeOutAll, List.map_map]
  rfl

theorem find_timeOutAll (names : List String) (r : SensorRecoveryManager) (name : String) :
    (r.timeOutAll names).find name =
      (r.find name).map fun info => if name ∈ names then info.timeOut else info :=
  AssocList.lookup_map
    (fun name (info : SensorRecoveryInfo) => if name ∈ names then info.timeOut else info)
    r.sensorStates name

theorem mem_sensorNames_of_find {info : SensorRecoveryInfo} (h : r.find name = some info) :
    name ∈ r.sensorNames :=
  List.mem_map_of_mem (AssocList.mem_of_lookup h)

theorem timeOutAll_nil (r : SensorRecoveryManager) : r.timeOutAll [] = r := by
  simp [timeOutAll]

theorem timeOutAll_timeOutAll (names names' : List String) (r : SensorRecoveryManager) :
    (r.timeOutAll names).timeOutAll names' = r.timeOutAll (names ++ names') := by
  simp only [timeOutAll, List.map_map]
  congr 1
  refine List.map_congr_left fun entry _ => ?_
  by_cases hfirst : entry.1 ∈ names
  · by_cases hsecond : entry.1 ∈ names' <;>
      simp [hfirst, hsecond, SensorRecoveryInfo.timeOut]
  · simp [hfirst]

/-- Names of no sensor change nothing. -/
theorem timeOutAll_cons_of_not_mem (h : name ∉ r.sensorNames) (names : List String) :
    r.timeOutAll (name :: names) = r.timeOutAll names := by
  rw [timeOutAll, timeOutAll]
  congr 1
  refine List.map_congr_left fun entry hentry => ?_
  have hne : entry.1 ≠ name := fun heq => h (heq ▸ List.mem_map_of_mem hentry)
  simp [hne]

/-! ## One scan -/

theorem checkTimeouts_cases (hnodup : r.sensorNames.Nodup) (nowNs recoveryTimeoutNs : UInt64)
    (order : List String) :
    (order.find? (r.expired nowNs recoveryTimeoutNs) = none ∧
        r.checkTimeouts nowNs recoveryTimeoutNs order = (r, "")) ∨
      ∃ name, order.find? (r.expired nowNs recoveryTimeoutNs) = some name ∧
        r.checkTimeouts nowNs recoveryTimeoutNs order = (r.timeOutAll [name], name) := by
  unfold checkTimeouts
  cases hfound : order.find? (r.expired nowNs recoveryTimeoutNs) with
  | none => exact .inl ⟨rfl, rfl⟩
  | some name =>
      refine .inr ⟨name, rfl, ?_⟩
      obtain ⟨info, hfind, -⟩ := r.find_of_expired (List.find?_some hfound)
      have hover := AssocList.overwrite_eq_map hnodup hfind SensorRecoveryInfo.timeOut
      simp only [hfind, assign, timeOutAll, List.mem_singleton]
      rw [← hover]
      rfl

/-- A sensor that has timed out does not expire. -/
theorem expired_timeOutAll (names : List String) (r : SensorRecoveryManager)
    (nowNs recoveryTimeoutNs : UInt64) (name : String) :
    (r.timeOutAll names).expired nowNs recoveryTimeoutNs name =
      (r.expired nowNs recoveryTimeoutNs name && name ∉ names) := by
  rw [expired, expired, find_timeOutAll]
  by_cases hname : name ∈ names
  · cases r.find name <;> simp [hname, SensorRecoveryInfo.timeOut]
  · cases r.find name <;> simp [hname]

/-! ## The scans of one tick -/

/-- The names that a scan can find. -/
def pending (nowNs recoveryTimeoutNs : UInt64) (r : SensorRecoveryManager) : List String :=
  r.sensorNames.filter (r.expired nowNs recoveryTimeoutNs)

theorem pending_timeOutAll (hnodup : r.sensorNames.Nodup) (name : String) :
    (r.timeOutAll [name]).pending nowNs recoveryTimeoutNs =
      (r.pending nowNs recoveryTimeoutNs).erase name := by
  have hpending : (r.pending nowNs recoveryTimeoutNs).Nodup := hnodup.filter _
  rw [hpending.erase_eq_filter]
  simp only [pending, List.filter_filter, sensorNames_timeOutAll]
  refine List.filter_congr fun other _ => ?_
  rw [expired_timeOutAll, Bool.and_comm]
  by_cases hother : other = name <;> simp [hother]

/-- A scan that visits every sensor once, with the clock at `nowNs`. -/
structure VisitsAll (nowNs recoveryTimeoutNs : UInt64) (r : SensorRecoveryManager)
    (scan : Scan) : Prop where
  nodup : r.sensorNames.Nodup
  order : scan.order.Perm r.sensorNames
  now : scan.nowNs = nowNs
  timeout : scan.recoveryTimeoutNs = recoveryTimeoutNs

/-- Such a scan finds a sensor that is pending, if there is one. -/
theorem VisitsAll.drains {scan : Scan} (h : VisitsAll nowNs recoveryTimeoutNs r scan) :
    r.pending nowNs recoveryTimeoutNs = [] ∧
        (scans.next r scan).pending nowNs recoveryTimeoutNs = [] ∧
        scans.output r scan = "" ∨
      scans.output r scan ∈ r.pending nowNs recoveryTimeoutNs ∧
        (scans.next r scan).pending nowNs recoveryTimeoutNs =
          (r.pending nowNs recoveryTimeoutNs).erase (scans.output r scan) := by
  obtain ⟨hnodup, horder, rfl, rfl⟩ := h
  have hcases := checkTimeouts_cases hnodup scan.nowNs scan.recoveryTimeoutNs scan.order
  rcases hcases with ⟨hnone, heq⟩ | ⟨name, hsome, heq⟩
  · have hnext : scans.next r scan = r := congrArg Prod.fst heq
    have hempty : r.pending scan.nowNs scan.recoveryTimeoutNs = [] := by
      refine List.filter_eq_nil_iff.2 fun name hname => ?_
      exact List.find?_eq_none.1 hnone name (horder.mem_iff.2 hname)
    rw [hnext]
    exact .inl ⟨hempty, hempty, congrArg Prod.snd heq⟩
  · have hnext : scans.next r scan = r.timeOutAll [name] := congrArg Prod.fst heq
    have hout : scans.output r scan = name := congrArg Prod.snd heq
    have hmem := horder.mem_iff.1 (List.mem_of_find?_eq_some hsome)
    rw [hnext, hout]
    exact .inr ⟨List.mem_filter.2 ⟨hmem, List.find?_some hsome⟩,
      pending_timeOutAll hnodup name⟩

/-- The difference of the times is the time that has passed. -/
theorem expired_iff_overdue
    (hstarted : ∀ entry ∈ r.sensorStates, ∀ startNs ∈ entry.2.degradationStartNs,
      startNs ≤ nowNs) (name : String) :
    r.expired nowNs recoveryTimeoutNs name = true ↔
      r.Overdue nowNs recoveryTimeoutNs name := by
  unfold expired Overdue
  cases hfind : r.find name with
  | none => simp
  | some info =>
      cases hstart : info.degradationStartNs with
      | none => simp [hstart]
      | some startNs =>
          have hle := hstarted _ (AssocList.mem_of_lookup hfind) startNs hstart
          have hle' := UInt64.le_iff_toNat_le.1 hle
          have hsub := UInt64.toNat_sub_of_le _ _ hle
          simp [hstart, UInt64.lt_iff_toNat_lt, hsub]
          omega

theorem mem_pending_iff
    (hstarted : ∀ entry ∈ r.sensorStates, ∀ startNs ∈ entry.2.degradationStartNs,
      startNs ≤ nowNs) :
    name ∈ r.pending nowNs recoveryTimeoutNs ↔ r.Overdue nowNs recoveryTimeoutNs name := by
  rw [pending, List.mem_filter, expired_iff_overdue hstarted]
  refine and_iff_right_of_imp fun hover => ?_
  obtain ⟨info, startNs, hfind, -⟩ := hover
  exact mem_sensorNames_of_find hfind

/-! ## The scans of a run -/

theorem sensorNames_preserved (hnodup : r.sensorNames.Nodup) (scan : Scan) :
    (scans.next r scan).sensorNames = r.sensorNames := by
  have hcases := checkTimeouts_cases hnodup scan.nowNs scan.recoveryTimeoutNs scan.order
  rcases hcases with ⟨-, heq⟩ | ⟨name, -, heq⟩
  · exact congrArg (fun result => sensorNames result.1) heq
  · exact (congrArg (fun result => sensorNames result.1) heq).trans
      (sensorNames_timeOutAll [name] r)

/-- A run of scans marks the sensors that it names, and changes nothing else. -/
theorem scans_run_eq (hnodup : r.sensorNames.Nodup) (hne : "" ∉ r.sensorNames)
    (es : List Scan) : scans.run r es = r.timeOutAll (scans.outputs r es) := by
  induction es generalizing r with
  | nil => exact (timeOutAll_nil r).symm
  | cons scan es ih =>
      rw [Component.run_cons, Component.outputs_cons]
      have hcases := checkTimeouts_cases hnodup scan.nowNs scan.recoveryTimeoutNs scan.order
      rcases hcases with ⟨-, heq⟩ | ⟨name, -, heq⟩
      · have hnext : scans.next r scan = r := congrArg Prod.fst heq
        have hout : scans.output r scan = "" := congrArg Prod.snd heq
        rw [hnext, hout, timeOutAll_cons_of_not_mem hne, ih hnodup hne]
      · have hnext : scans.next r scan = r.timeOutAll [name] := congrArg Prod.fst heq
        have hout : scans.output r scan = name := congrArg Prod.snd heq
        rw [hnext, hout, ih (by rwa [sensorNames_timeOutAll])
          (by rwa [sensorNames_timeOutAll]), timeOutAll_timeOutAll]
        rfl

/-- A run of scans names the sensors that expire by the clock of one of its scans. -/
theorem expired_of_mem_outputs (hnodup : r.sensorNames.Nodup) {es : List Scan}
    (h : name ∈ scans.outputs r es) (hname : name ≠ "") :
    ∃ scan ∈ es, r.expired scan.nowNs scan.recoveryTimeoutNs name = true := by
  induction es generalizing r with
  | nil => cases h
  | cons scan es ih =>
      rw [Component.outputs_cons] at h
      have hnames := sensorNames_preserved hnodup scan
      have hcases := checkTimeouts_cases hnodup scan.nowNs scan.recoveryTimeoutNs scan.order
      rcases hcases with ⟨-, heq⟩ | ⟨found, hfound, heq⟩
      · have hnext : scans.next r scan = r := congrArg Prod.fst heq
        have hout : scans.output r scan = "" := congrArg Prod.snd heq
        rw [hnext, hout] at h
        obtain ⟨later, hlater, hexpired⟩ := ih hnodup ((List.mem_cons.1 h).resolve_left hname)
        exact ⟨later, List.mem_cons_of_mem _ hlater, hexpired⟩
      · have hnext : scans.next r scan = r.timeOutAll [found] := congrArg Prod.fst heq
        have hout : scans.output r scan = found := congrArg Prod.snd heq
        rw [hnext, hout] at h
        rcases List.mem_cons.1 h with rfl | hmem
        · exact ⟨scan, List.mem_cons_self, List.find?_some hfound⟩
        · obtain ⟨later, hlater, hexpired⟩ := ih (by rwa [sensorNames_timeOutAll]) hmem
          rw [expired_timeOutAll, Bool.and_eq_true] at hexpired
          exact ⟨later, List.mem_cons_of_mem _ hlater, hexpired.1⟩

/-- Every scan of a tick visits all sensors. -/
theorem along_visitsAll (hnodup : r.sensorNames.Nodup) {orders : List (List String)}
    (horders : ∀ order ∈ orders, order.Perm r.sensorNames) :
    scans.Along (VisitsAll nowNs recoveryTimeoutNs) r
      (orders.map (Scan.mk nowNs recoveryTimeoutNs)) := by
  have hkeeps : scans.Preserved fun s => s.sensorNames = r.sensorNames := fun s scan hs =>
    (sensorNames_preserved (hs ▸ hnodup) scan).trans hs
  refine hkeeps.along_of_mem rfl fun s scan hscan hs => ?_
  obtain ⟨order, horder, rfl⟩ := List.mem_map.1 hscan
  exact ⟨hs ▸ hnodup, hs ▸ horders order horder, rfl, rfl⟩

/-- The scans of one tick find the overdue sensors, each once and in some order, and then
none; they change the records of these sensors only, and no later scan finds one of them
again. -/
theorem scans_find_overdue (hnodup : r.sensorNames.Nodup) (hne : "" ∉ r.sensorNames)
    (hstarted : ∀ entry ∈ r.sensorStates, ∀ startNs ∈ entry.2.degradationStartNs,
      startNs ≤ nowNs) (recoveryTimeoutNs : UInt64) {orders : List (List String)}
    (horders : ∀ order ∈ orders, order.Perm r.sensorNames) :
    (∃ found : List String, found.Nodup ∧
        (∀ name, name ∈ found ↔ r.Overdue nowNs recoveryTimeoutNs name) ∧
        scans.outputs r (orders.map (Scan.mk nowNs recoveryTimeoutNs)) =
          (List.range orders.length).map fun i => found.getD i "") ∧
      scans.run r (orders.map (Scan.mk nowNs recoveryTimeoutNs)) =
        r.timeOutAll (scans.outputs r (orders.map (Scan.mk nowNs recoveryTimeoutNs))) ∧
      ∀ later, ∀ name ∈ scans.outputs r (orders.map (Scan.mk nowNs recoveryTimeoutNs)),
        name ≠ "" →
        name ∉ scans.outputs
          (scans.run r (orders.map (Scan.mk nowNs recoveryTimeoutNs))) later := by
  have hrun := scans_run_eq hnodup hne (orders.map (Scan.mk nowNs recoveryTimeoutNs))
  refine ⟨?_, hrun, ?_⟩
  · obtain ⟨found, hperm, hout⟩ :=
      (along_visitsAll hnodup horders).drains fun _ _ => VisitsAll.drains
    refine ⟨found, hperm.nodup_iff.2 (hnodup.filter _), fun name => ?_, ?_⟩
    · rw [hperm.mem_iff, mem_pending_iff hstarted]
    · rw [hout, List.length_map]
  · intro later name hmem hname hlater
    rw [hrun] at hlater
    obtain ⟨scan, -, hexpired⟩ :=
      expired_of_mem_outputs (by rwa [sensorNames_timeOutAll]) hlater hname
    rw [expired_timeOutAll, Bool.and_eq_true, decide_eq_true_eq] at hexpired
    exact hexpired.2 hmem

/-- Two of three sensors are degraded. -/
def twoDegraded : SensorRecoveryManager where
  sensorStates :=
    [("lidar", { status := SensorHealth.degraded, degradationStartNs := some 10 }),
      ("gps", { status := SensorHealth.healthy }),
      ("imu", { status := SensorHealth.degraded, degradationStartNs := some 20 })]

/-- Three scans that visit the sensors in different orders. -/
def threeScans : List Scan :=
  [["lidar", "gps", "imu"], ["imu", "lidar", "gps"], ["gps", "imu", "lidar"]].map
    (Scan.mk 100 30)

theorem scans_find_twoDegraded :
    (∃ found : List String, found.Nodup ∧
        (∀ name, name ∈ found ↔ twoDegraded.Overdue 100 30 name) ∧
        scans.outputs twoDegraded threeScans =
          (List.range 3).map fun i => found.getD i "") ∧
      scans.run twoDegraded threeScans =
        twoDegraded.timeOutAll (scans.outputs twoDegraded threeScans) ∧
      ∀ later, ∀ name ∈ scans.outputs twoDegraded threeScans,
        name ≠ "" → name ∉ scans.outputs (scans.run twoDegraded threeScans) later :=
  scans_find_overdue (by decide) (by decide) (by simp [twoDegraded]) 30 (by decide)

end SensorRecoveryManager

end SafetyCore
