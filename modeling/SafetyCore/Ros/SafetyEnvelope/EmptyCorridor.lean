import SafetyCore.Arithmetic.Rounding
import SafetyCore.Ros.DriveBridge.CommandGate
import SafetyCore.Ros.SafetyEnvelope

/-!
# Driving off with an empty corridor

After the grace period a scan without an obstacle is published as a warning whose limit is the
measured speed, or half of the maximum if that is less. The drive bridge clamps the command to
this limit, so a vehicle does not get faster than it is: a command is followed only up to the
speed that was measured at the scan, and a vehicle at rest stays at rest.
-/

namespace SafetyCore

open Arithmetic Transition

/-! ## What the node publishes -/

namespace SafetyEnvelopeNode

section Scan

variable {α : Type*} [Zero α] [Add α] [Mul α] [OfScientific α] [IntCast α] [LT α]
  [DecidableLT α] [LE α] [DecidableLE α] [FiniteTest α] [Trigonometry α]

variable (n : SafetyEnvelopeNode α)

/-- The range with the index `i` is a valid one of an obstacle in the corridor that is not to
be ignored. -/
def IsObstacle (scan : LaserScan α) (i : ℕ) (r : α) : Prop :=
  let angle := scan.angleMin + ((i : ℤ) : α) * scan.angleIncrement
  isScanPointValid r n.scanMinValidRangeM scan.rangeMax = true ∧
    isPointInForwardCorridor (calculatePointDistance r angle) (r * sin angle)
      n.corridorSq = true ∧
    ¬ calculatePointDistance r angle < n.scanIgnoreMinRangeM

/-- No range of the scan is one of an obstacle in the corridor. -/
def CorridorEmpty (scan : LaserScan α) : Prop :=
  ∀ i, ∀ r ∈ scan.ranges[i]?, ¬ n.IsObstacle scan i r

variable {n} {scan : LaserScan α}

theorem nearestStep_of_not_isObstacle {i : ℕ} {r : α} (h : ¬ n.IsObstacle scan i r)
    (minD : WithTop α) : n.nearestStep scan i r minD = minD := by
  unfold nearestStep
  dsimp only
  split_ifs with hvalid hcorridor hignored
  · rfl
  · rfl
  · rfl
  · exact absurd ⟨by simpa using hvalid, by simpa using hcorridor, hignored⟩ h

theorem nearestFrom_of_not_isObstacle {rs : List α} {i : ℕ}
    (h : ∀ k, ∀ r ∈ rs[k]?, ¬ n.IsObstacle scan (i + k) r) (minD : WithTop α) :
    n.nearestFrom scan i rs minD = minD := by
  induction rs generalizing i minD with
  | nil => rfl
  | cons r rs ih =>
      have hhead : ¬ n.IsObstacle scan i r := h 0 r rfl
      rw [nearestFrom, nearestStep_of_not_isObstacle hhead]
      refine ih (fun k q hq => ?_) minD
      rw [Nat.add_assoc, Nat.add_comm 1 k]
      exact h (k + 1) q hq

theorem nearestObstacle_of_corridorEmpty (h : n.CorridorEmpty scan) :
    n.nearestObstacleInFootprintCorridor scan = ⊤ := by
  refine nearestFrom_of_not_isObstacle (fun k r hr => ?_) ⊤
  rw [Nat.zero_add]
  exact h k r hr

/-- Past the grace period an empty corridor is published as a warning at the cautious
speed. -/
theorem onScan_of_corridorEmpty [Sub α] [Div α] [Neg α] [SquareRoot α]
    (h : n.CorridorEmpty scan) {now : ℤ} (hgrace : n.inGracePeriod now = false) :
    (n.onScan scan now).toEnvelopeStatus =
      ⟨SafetyZone.warning.toRaw, n.cautiousSpeed (stdMax 0 n.latestSpeedMps)⟩ := by
  unfold onScan publishEnvelope noObstacleStatus
  rw [nearestObstacle_of_corridorEmpty h, hgrace]
  rfl

end Scan

end SafetyEnvelopeNode

/-! ## What the bridge makes of it -/

namespace SafetyDriveBridgeNode

def Event.envelopeMsg {α : Type*} : Event α → Option (EnvelopeStatus α)
  | .envelope msg => some msg
  | _ => none

/-- Nothing but the limit of the envelope keeps the bridge from following the command at the
tick: no fault and no safe stop, a fresh command and a recovery limit that allows it. -/
structure Follows {α : Type*} [Zero α] [LE α] (p : Params α) (b : SafetyDriveBridgeNode α)
    (cmd : Twist α) (now : UInt64) : Prop where
  no_fault : b.faultLatched = false
  no_safeStop : b.safeStopActive = false
  latest : b.latestNavCmd = some cmd
  fresh : TimeUtils.isStale b.latestNavCmdTimeNs now p.cmdFreshnessTimeoutNs = false
  recovery : cmd.linearX ≤ b.recoverySpeedLimitMps

theorem Follows.controlTick_linearX {α : Type*} [Zero α] [Neg α] [LT α] [DecidableLT α] [LE α]
    {p : Params α} {b : SafetyDriveBridgeNode α} {cmd : Twist α} {now : UInt64}
    (h : b.Follows p cmd now) :
    (b.controlTick p now).2.linearX =
      stdClamp cmd.linearX
        (-stdMin (stdMin p.maxLinearMps b.recommendedSpeedLimitMps) b.recoverySpeedLimitMps)
        (stdMin (stdMin p.maxLinearMps b.recommendedSpeedLimitMps)
          b.recoverySpeedLimitMps) := by
  unfold controlTick
  rw [h.no_fault, h.no_safeStop, h.latest]
  dsimp only
  rw [h.fresh]
  rfl

/-- The limit in force is the one of the last envelope message. -/
theorem run_recommended_of_warning {α : Type*} [Zero α] [Add α] [Mul α] [Div α] [Neg α]
    [OfScientific α] [LT α] [DecidableLT α] [LE α] [DecidableLE α] [FiniteTest α]
    (p : Params α) {es : List (Event α)} {limit : α}
    (h : lastValue Event.envelopeMsg es = some ⟨SafetyZone.warning.toRaw, limit⟩) :
    ((component p).run initial es).recommendedSpeedLimitMps = stdMax 0 limit := by
  have hfield : Event.recommendedLimit p = fun e => (Event.envelopeMsg e).map fun msg =>
      if msg.zone = 0 then p.maxLinearMps else stdMax 0 msg.recommendedSpeedLimitMps := by
    funext e
    cases e <;> rfl
  have hwarning : ¬ SafetyZone.warning.toRaw = 0 := by decide
  rw [(run_limits p es).1, hfield, lastValue_map, h, Option.map_some, Option.getD_some,
    if_neg hwarning]

section System

variable {α : Type*} [LinearOrder α] [Zero α] [Add α] [Mul α] [Div α] [Neg α]
  [OfScientific α] [FiniteTest α] [OrderedArith α]

/-- Under a warning, a command that nothing else limits is followed where it does not exceed
the limit of the warning. -/
theorem Follows.linearX_eq_iff {p : Params α} {es : List (Event α)} {cmd : Twist α}
    {now : UInt64} {limit : α} (h : ((component p).run initial es).Follows p cmd now)
    (hstatus : lastValue Event.envelopeMsg es = some ⟨SafetyZone.warning.toRaw, limit⟩)
    (hpos : 0 < cmd.linearX) (hmax : cmd.linearX ≤ p.maxLinearMps) (hlimit : 0 ≤ limit) :
    (((component p).run initial es).controlTick p now).2.linearX = cmd.linearX ↔
      cmd.linearX ≤ limit := by
  have hrecovery := h.recovery
  rw [h.controlTick_linearX, run_recommended_of_warning p hstatus]
  simp only [stdMax_eq_max, stdMin_eq_min, max_eq_right hlimit]
  rw [stdClamp_neg_eq_self_iff hpos]
  · simp [hmax, hrecovery]
  · exact le_min (le_min (hpos.le.trans hmax) hlimit) (hpos.le.trans hrecovery)

/-- After the scan of an empty corridor a command of at most half the maximum is followed
exactly if it does not exceed the speed that was measured at the scan. -/
theorem linearX_eq_cmd_iff [Sub α] [IntCast α] [SquareRoot α] [Trigonometry α] {p : Params α}
    {n : SafetyEnvelopeNode α} {scan : LaserScan α} {scanTime : ℤ} {es : List (Event α)}
    {cmd : Twist α} {now : UInt64} (hspeed : 0 ≤ n.latestSpeedMps)
    (hgrace : n.inGracePeriod scanTime = false) (hempty : n.CorridorEmpty scan)
    (hstatus : lastValue Event.envelopeMsg es =
      some (n.onScan scan scanTime).toEnvelopeStatus)
    (hfollows : ((component p).run initial es).Follows p cmd now) (hpos : 0 < cmd.linearX)
    (hhalf : cmd.linearX ≤ n.config.envelope.maxSpeedMps * 0.5)
    (hmax : cmd.linearX ≤ p.maxLinearMps) :
    (((component p).run initial es).controlTick p now).2.linearX = cmd.linearX ↔
      cmd.linearX ≤ n.latestSpeedMps := by
  have hcautious : n.cautiousSpeed (stdMax 0 n.latestSpeedMps) =
      min n.latestSpeedMps (n.config.envelope.maxSpeedMps * 0.5) := by
    rw [SafetyEnvelopeNode.cautiousSpeed, stdMin_eq_min, stdMax_eq_max, max_eq_right hspeed]
  rw [SafetyEnvelopeNode.onScan_of_corridorEmpty hempty hgrace, hcautious] at hstatus
  rw [hfollows.linearX_eq_iff hstatus hpos hmax (le_min hspeed (hpos.le.trans hhalf))]
  simp [hhalf]

end System

/-! ## Departures -/

/-- The default parameters in real numbers. -/
noncomputable def Params.realDefault : Params ℝ where
  maxLinearMps := 1.5
  maxAngularRadps := 1.5
  maxDecelMps2 := 1.0
  maxJerkMps3 := 2.0
  controlPeriodS := 0.05
  cmdFreshnessTimeoutNs := 250000000
  maxLinearMps_valid := by norm_num
  maxAngularRadps_valid := by norm_num
  maxDecelMps2_valid := by norm_num
  maxJerkMps3_valid := by norm_num
  controlPeriodS_valid := by norm_num

/-- The envelope node with its default parameters, after a measurement of the speed. -/
def envelopeAt (speed : ℝ) : SafetyEnvelopeNode ℝ :=
  (SafetyEnvelopeNode.membersOf ({} : SafetyEnvelopeParams ℝ) 0).onOdom speed

/-- A scan without ranges. -/
def emptyScan : LaserScan ℝ := ⟨0, 0, 10, []⟩

/-- Three seconds after the start, a command of half a metre per second and the status of an
empty scan. -/
noncomputable def departure (speed : ℝ) : List (Event ℝ) :=
  [.cmdVelNav ⟨0.5, 0⟩ 3000000000,
    .envelope ((envelopeAt speed).onScan emptyScan 3000000000).toEnvelopeStatus]

theorem departure_follows (speed : ℝ) :
    ((component .realDefault).run initial (departure speed)).Follows .realDefault ⟨0.5, 0⟩
      3000000000 := by
  have hframe : ∃ limit, (component .realDefault).run initial (departure speed) =
      { initial (α := ℝ) with
        latestNavCmd := some ⟨0.5, 0⟩
        latestNavCmdTimeNs := 3000000000
        recommendedSpeedLimitMps := limit } := by
    unfold departure component onEnvelope
    simp only [Component.run_cons, Component.run_nil]
    split <;> exact ⟨_, rfl⟩
  obtain ⟨limit, hrun⟩ := hframe
  have hfresh : TimeUtils.isStale 3000000000 3000000000 250000000 = false := by decide
  rw [hrun]
  refine ⟨rfl, rfl, rfl, hfresh, ?_⟩
  norm_num [initial]

theorem envelopeAt_not_inGracePeriod (speed : ℝ) :
    (envelopeAt speed).inGracePeriod 3000000000 = false := by
  norm_num [SafetyEnvelopeNode.inGracePeriod, envelopeAt, SafetyEnvelopeNode.onOdom,
    SafetyEnvelopeNode.membersOf]

theorem emptyScan_corridorEmpty (n : SafetyEnvelopeNode ℝ) : n.CorridorEmpty emptyScan :=
  fun _ _ => nofun

theorem half_le_maxSpeed (speed : ℝ) :
    (0.5 : ℝ) ≤ (envelopeAt speed).config.envelope.maxSpeedMps * 0.5 := by
  norm_num [envelopeAt, SafetyEnvelopeNode.onOdom, SafetyEnvelopeNode.membersOf,
    SafetyEnvelopeNode.configOf]

theorem half_le_maxLinear : (0.5 : ℝ) ≤ Params.realDefault.maxLinearMps := by
  norm_num [Params.realDefault]

/-- A vehicle at half a metre per second keeps its speed. -/
theorem linearX_eq_cmd_moving :
    (((component .realDefault).run initial (departure 0.5)).controlTick .realDefault
      3000000000).2.linearX = 0.5 := by
  have hspeed : (0 : ℝ) ≤ (envelopeAt 0.5).latestSpeedMps := by
    norm_num [envelopeAt, SafetyEnvelopeNode.onOdom]
  have hpos : (0 : ℝ) < 0.5 := by norm_num
  exact (linearX_eq_cmd_iff hspeed (envelopeAt_not_inGracePeriod 0.5)
    (emptyScan_corridorEmpty _) rfl (departure_follows 0.5) hpos (half_le_maxSpeed 0.5)
    half_le_maxLinear).2 le_rfl

/-- A vehicle at rest is not set in motion, with the default parameters and a fresh
command. -/
theorem not_always_linearX_eq_cmd :
    ¬ ∀ (p : Params ℝ) (n : SafetyEnvelopeNode ℝ) (scan : LaserScan ℝ) (scanTime : ℤ)
      (es : List (Event ℝ)) (cmd : Twist ℝ) (now : UInt64),
      Accepted n.config .strict → 0 ≤ n.latestSpeedMps → n.inGracePeriod scanTime = false →
      n.CorridorEmpty scan →
      lastValue Event.envelopeMsg es = some (n.onScan scan scanTime).toEnvelopeStatus →
      ((component p).run initial es).Follows p cmd now → 0 < cmd.linearX →
      cmd.linearX ≤ n.config.envelope.maxSpeedMps * 0.5 → cmd.linearX ≤ p.maxLinearMps →
      (((component p).run initial es).controlTick p now).2.linearX = cmd.linearX := by
  intro h
  have hstatus : lastValue Event.envelopeMsg (departure 0) =
      some ⟨SafetyZone.warning.toRaw, (envelopeAt 0).cautiousSpeed (stdMax 0 0)⟩ :=
    congrArg some (SafetyEnvelopeNode.onScan_of_corridorEmpty (emptyScan_corridorEmpty _)
      (envelopeAt_not_inGracePeriod 0))
  have hrest : (envelopeAt 0).cautiousSpeed (stdMax 0 0) = 0 := by
    norm_num [SafetyEnvelopeNode.cautiousSpeed, stdMin_eq_min, envelopeAt,
      SafetyEnvelopeNode.onOdom, SafetyEnvelopeNode.membersOf, SafetyEnvelopeNode.configOf]
  have hpos : (0 : ℝ) < 0.5 := by norm_num
  have heq := h .realDefault (envelopeAt 0) emptyScan 3000000000 (departure 0) ⟨0.5, 0⟩
    3000000000
    (SafetyEnvelopeNode.create_eq_ok_iff.1 (SafetyEnvelopeNode.create_default 0)).1 le_rfl
    (envelopeAt_not_inGracePeriod 0) (emptyScan_corridorEmpty _) rfl (departure_follows 0) hpos
    (half_le_maxSpeed 0) half_le_maxLinear
  rw [hrest] at hstatus
  have hle := ((departure_follows 0).linearX_eq_iff hstatus hpos half_le_maxLinear le_rfl).1 heq
  exact absurd hpos (not_lt.2 hle)

end SafetyDriveBridgeNode

end SafetyCore
