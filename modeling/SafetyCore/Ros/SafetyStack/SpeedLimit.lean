import SafetyCore.Ros.SafetyStack.StopReason
import SafetyCore.Safety.StopDistance.RecommendedSpeed

/-!
# The speed that the stack commands

Outside of a stop profile the bridge clamps what it publishes to the limit of the last envelope
status. In front of an obstacle that is not clear, this limit leaves the vehicle seven tenths of
the room before the buffer to brake in, so a forward command can be braked there, whatever the
planner asked for.
-/

namespace SafetyCore

open Arithmetic Transition

/-! ## The limit of a status -/

namespace SafetyEnvelopeNode

/-- A limit that is not zero belongs to a warning or to a clear zone. -/
theorem zone_of_limit_ne_zero (distance speed decel latency buffer : ℝ)
    (h : (evaluateStopDistance distance speed decel latency
      buffer).recommendedSpeedLimitMps ≠ 0) :
    (evaluateStopDistance distance speed decel latency buffer).zone = .warning ∨
      (evaluateStopDistance distance speed decel latency buffer).zone = .clear := by
  unfold evaluateStopDistance at h ⊢
  dsimp only at h ⊢
  split_ifs at h ⊢ <;> simp at h ⊢

/-- Past the grace period the limit of the evaluation is published. -/
theorem publishEnvelope_limit (n : SafetyEnvelopeNode ℝ) {d speed : ℝ} {now : ℤ} (hd : 0 ≤ d)
    (hgrace : n.inGracePeriod now = false) :
    (n.publishEnvelope (d : WithTop ℝ) speed now).recommendedSpeedLimitMps =
      (n.evaluate d speed).recommendedSpeedLimitMps := by
  have hvalid : ¬ ((!isFinite d) = true ∨ d < 0) := by
    simpa [isFinite] using hd
  unfold publishEnvelope
  dsimp only
  rw [if_neg hvalid]
  unfold obstacleStatus modifiedEval
  simp [hgrace]

/-- Past the grace period, a speed below the limit of a status that is not clear can be braked
within seven tenths of the room before the buffer. -/
theorem publishEnvelope_stops (n : SafetyEnvelopeNode ℝ) {d speed v : ℝ} {now : ℤ} (hd : 0 ≤ d)
    (hgrace : n.inGracePeriod now = false)
    (hzone : (n.publishEnvelope (d : WithTop ℝ) speed now).zone ≠ SafetyZone.clear.toRaw)
    (hv : 0 < v)
    (hle : v ≤ (n.publishEnvelope (d : WithTop ℝ) speed now).recommendedSpeedLimitMps) :
    0 < n.config.envelope.maxComfortDecelMps2 ∧
      v * v / (2 * n.config.envelope.maxComfortDecelMps2) ≤
        7 / 10 * (d - n.footprint.frontOverhangM - n.dynamicBuffer speed) := by
  rw [publishEnvelope_zone n speed now hd, hgrace] at hzone
  rw [n.publishEnvelope_limit hd hgrace] at hle
  unfold evaluate evaluateStopDistanceOf at hzone hle
  dsimp only at hzone hle
  generalize hdistance : d - n.footprint.frontOverhangM = distance at hzone hle ⊢
  generalize n.dynamicBuffer speed = buffer at hzone hle ⊢
  generalize n.config.envelope.maxComfortDecelMps2 = decel at hzone hle ⊢
  have hwarning : (evaluateStopDistance distance speed decel n.config.envelope.controlLatencyS
      buffer).zone = .warning := by
    rcases zone_of_limit_ne_zero _ _ _ _ _ (hv.trans_le hle).ne' with hwarning | hclear
    · exact hwarning
    · rw [hclear] at hzone
      exact absurd rfl hzone
  obtain ⟨-, -, hrecommended⟩ := evaluateStopDistance_of_warning _ _ _ _ _ hwarning
  rw [hrecommended] at hle
  have hroom : 0 < max 0 decel ∧ 0 < distance - buffer := by
    by_contra hnone
    rw [if_neg hnone] at hle
    exact absurd hv (not_lt.2 hle)
  have hdecel : 0 < decel := (lt_max_iff.1 hroom.1).resolve_left (lt_irrefl 0)
  rw [if_pos hroom, max_eq_right hdecel.le] at hle
  have hsq := mul_self_sqrt_available hdecel.le hroom.2.le
  have hvv : v * v ≤ 7 / 5 * decel * (distance - buffer) :=
    hsq ▸ mul_self_le_mul_self hv.le hle
  refine ⟨hdecel, ?_⟩
  rw [div_le_iff₀ (by positivity)]
  linarith

end SafetyEnvelopeNode

/-! ## The clamp of the bridge -/

namespace SafetyDriveBridgeNode

variable {K : Type*} [Field K] [LinearOrder K] [IsStrictOrderedRing K] {p : Params K}
  {n : SafetyDriveBridgeNode K}

/-- The limits from other nodes are not negative. -/
def LimitsNonneg (n : SafetyDriveBridgeNode K) : Prop :=
  0 ≤ n.recommendedSpeedLimitMps ∧ 0 ≤ n.recoverySpeedLimitMps

theorem limitsNonneg_initial : LimitsNonneg (initial : SafetyDriveBridgeNode K) := by
  constructor <;>
    norm_num [initial]

omit [IsStrictOrderedRing K] in
theorem limitsNonneg_preserved (p : Params K) : (component p).Preserved LimitsNonneg := by
  intro n e h
  obtain ⟨_, _, _, hnext⟩ := next_eq p n e
  rw [LimitsNonneg, hnext]
  constructor
  · cases e with
    | envelope msg =>
        change 0 ≤ if msg.zone = 0 then p.maxLinearMps else stdMax 0 msg.recommendedSpeedLimitMps
        split_ifs
        · exact (not_le.1 p.maxLinearMps_valid).le
        · rw [stdMax_eq_max]
          exact le_max_left _ _
    | _ => exact h.1
  · cases e with
    | recoverySpeedLimit data =>
        change 0 ≤ stdMax 0 data
        rw [stdMax_eq_max]
        exact le_max_left _ _
    | _ => exact h.2

/-- Outside of a stop profile a tick stays within each of the limits. -/
theorem controlTick_linearX_le (h : LimitsNonneg n)
    (hprofile : ¬ (n.faultLatched = false ∧ n.safeStopActive = true)) (now : UInt64) :
    |(n.controlTick p now).2.linearX| ≤
      min (min p.maxLinearMps n.recommendedSpeedLimitMps) n.recoverySpeedLimitMps := by
  have hlimit : 0 ≤ min (min p.maxLinearMps n.recommendedSpeedLimitMps)
      n.recoverySpeedLimitMps :=
    le_min (le_min (not_le.1 p.maxLinearMps_valid).le h.1) h.2
  rcases n.controlTick_branches p now with
    hzero | ⟨hfault, ⟨hstop, -⟩ | ⟨-, cmd, -, -, hpublished⟩⟩
  · rw [hzero]
    simpa [publishZeroTwist] using hlimit
  · exact absurd ⟨hfault, hstop⟩ hprofile
  · rw [hpublished]
    change |stdClamp cmd.linearX
      (-stdMin (stdMin p.maxLinearMps n.recommendedSpeedLimitMps) n.recoverySpeedLimitMps)
      (stdMin (stdMin p.maxLinearMps n.recommendedSpeedLimitMps) n.recoverySpeedLimitMps)| ≤ _
    have hsym := (neg_nonpos.2 hlimit).trans hlimit
    rw [stdMin_eq_min, stdMin_eq_min, stdClamp_eq_max_min _ hsym, abs_le]
    exact ⟨le_max_left _ _, max_le hsym (min_le_right _ _)⟩

end SafetyDriveBridgeNode

namespace SafetyStack

/-! ## The limits that the bridge holds -/

section Bridge

variable {α : Type} [Zero α] [Add α] [Sub α] [Mul α] [Div α] [Neg α] [OfScientific α]
  [NatCast α] [IntCast α] [LT α] [DecidableLT α] [LE α] [DecidableLE α] [FiniteTest α]
  [SquareRoot α] [Trigonometry α] [Casts α]

/-- What the bridge holds as the recommended limit after it has read a message. -/
def Message.recommendedLimit (p : Params α) : Message α → α
  | .envelopeStatus msg =>
      if msg.zone = 0 then p.bridge.maxLinearMps else stdMax 0 msg.recommendedSpeedLimitMps
  | _ => 1e9

/-- The same for the limit of the recovery. -/
def Message.recoveryLimit : Message α → α
  | .recoverySpeedLimit data => stdMax 0 data
  | _ => 1e9

variable (p : Params α) (monitor : SensorMonitorNode α) (envelope : SafetyEnvelopeNode α)
  (evs : List (Event α))

/-- The recommended limit is the one of the envelope status that the bridge has read last. -/
theorem bridge_recommended :
    ((stateAfter p monitor envelope evs).nodes .bridge).recommendedSpeedLimitMps =
      (((stateAfter p monitor envelope evs).last (.bridge, .envelopeStatus)).map fun q =>
        q.2.recommendedLimit p).getD 1e9 := by
  refine bridge_eq_last p monitor envelope evs
    (fun n => SafetyDriveBridgeNode.recommendedSpeedLimitMps n)
    (SafetyDriveBridgeNode.Event.recommendedLimit p.bridge) (Message.recommendedLimit p)
    .envelopeStatus ?_ ?_ ?_
  · intro n e
    obtain ⟨_, _, _, h⟩ := SafetyDriveBridgeNode.next_eq p.bridge n e
    rw [h]
  · intro e he
    cases e with
    | envelope => cases he
    | _ => rfl
  · intro m c e hacc
    cases m <;> cases hacc <;> rfl

theorem bridge_recovery :
    ((stateAfter p monitor envelope evs).nodes .bridge).recoverySpeedLimitMps =
      (((stateAfter p monitor envelope evs).last (.bridge, .recoverySpeedLimit)).map fun q =>
        q.2.recoveryLimit).getD 1e9 := by
  refine bridge_eq_last p monitor envelope evs
    (fun n => SafetyDriveBridgeNode.recoverySpeedLimitMps n)
    SafetyDriveBridgeNode.Event.recoveryLimit Message.recoveryLimit .recoverySpeedLimit ?_ ?_ ?_
  · intro n e
    obtain ⟨_, _, _, h⟩ := SafetyDriveBridgeNode.next_eq p.bridge n e
    rw [h]
  · intro e he
    cases e with
    | recoverySpeedLimit => cases he
    | _ => rfl
  · intro m c e hacc
    cases m <;> cases hacc <;> rfl

variable {p} {s : State α} {ev : Event α}

/-- The limits on the topic of the recovery are those that the ticks of the supervisor leave. -/
theorem exists_tick_of_limit_mem {m : Message α} (hm : m ∈ (network p).published s ev)
    (htopic : (network p).topic m = .recoverySpeedLimit) :
    ∃ now nowLocalization nowHealth order,
      ev = .input .supervisor (.timerTick now nowLocalization nowHealth order) ∧
        m = .recoverySpeedLimit ((s.nodes .supervisor).timerTick p.supervisor now nowLocalization
          nowHealth order).1.speedCtrl.currentLimitMps := by
  obtain ⟨now, nowLocalization, nowHealth, order, rfl⟩ :=
    exists_tick_of_mem hm (congrArg Topic.sender htopic)
  refine ⟨now, nowLocalization, nowHealth, order, rfl, ?_⟩
  rw [published_tick, Network.nodes_step_self (Network.reads_input rfl)] at hm
  rcases List.mem_cons.1 hm with rfl | hm
  · rfl
  · rcases List.mem_cons.1 hm with rfl | hm
    · cases htopic
    · rw [List.mem_singleton.1 hm] at htopic
      cases htopic

end Bridge

section Limits

variable {K : Type} [Field K] [LinearOrder K] [IsStrictOrderedRing K] [SquareRoot K]
  [Trigonometry K] [Casts K]

theorem limitsNonneg_stateAfter (p : Params K) (monitor : SensorMonitorNode K)
    (envelope : SafetyEnvelopeNode K) (es : List (Event K)) :
    SafetyDriveBridgeNode.LimitsNonneg ((stateAfter p monitor envelope es).nodes .bridge) :=
  (Network.preserved_lift (N := network p) (i := .bridge)
    (SafetyDriveBridgeNode.limitsNonneg_preserved p.bridge)).run
    SafetyDriveBridgeNode.limitsNonneg_initial es

/-- Outside of a stop profile a tick stays within the recovery limit that the bridge has read
last. -/
theorem controlTick_of_recoveryLimit {p : Params K} {monitor : SensorMonitorNode K}
    {envelope : SafetyEnvelopeNode K} {es : List (Event K)} {k : ℕ} {data : K}
    (hread : (stateAfter p monitor envelope es).last (.bridge, .recoverySpeedLimit) =
      some (k, .recoverySpeedLimit data))
    (hprofile : ¬ FollowsProfile ((stateAfter p monitor envelope es).nodes .bridge))
    (nowTick : UInt64) :
    |(((stateAfter p monitor envelope es).nodes .bridge).controlTick p.bridge
      nowTick).2.linearX| ≤ max 0 data := by
  have hlast := bridge_recovery p monitor envelope es
  rw [hread] at hlast
  have hclamped := SafetyDriveBridgeNode.controlTick_linearX_le (p := p.bridge)
    (limitsNonneg_stateAfter p monitor envelope es) hprofile nowTick
  refine (hclamped.trans (min_le_right _ _)).trans_eq (hlast.trans ?_)
  change stdMax 0 data = _
  rw [stdMax_eq_max]

end Limits

/-! ## The command -/

/-- A scan past the grace period with the nearest obstacle at `d`, and the status that is
published for it, which is not clear. As long as the bridge has read no later status, every
forward speed that it publishes outside of a stop profile can be braked at the comfortable
deceleration within seven tenths of the room before the buffer. -/
theorem commanded_speed_stops (p : Params ℝ) (monitor : SensorMonitorNode ℝ)
    (envelope : SafetyEnvelopeNode ℝ) (es fs : List (Event ℝ)) (scan : LaserScan ℝ) (now : ℤ)
    (nowTick : UInt64) {d : ℝ} {m : Message ℝ} :
    let s := stateAfter p monitor envelope es
    let n : SafetyEnvelopeNode ℝ := s.nodes .envelope
    let s' := stateAfter p monitor envelope (es ++ .input .envelope (.scan scan now) :: fs)
    let b : SafetyDriveBridgeNode ℝ := s'.nodes .bridge
    let t := (b.controlTick p.bridge nowTick).2
    let decel := n.config.envelope.maxComfortDecelMps2
    n.nearestObstacleInFootprintCorridor scan = (d : WithTop ℝ) → 0 ≤ d →
    n.inGracePeriod now = false → (n.onScan scan now).zone ≠ SafetyZone.clear.toRaw →
    s'.last (.bridge, .envelopeStatus) = some (s.log.length, m) →
    ¬ FollowsProfile b →
    0 < t.linearX →
    0 < decel ∧ t.linearX * t.linearX / (2 * decel) ≤
      7 / 10 * (d - n.footprint.frontOverhangM -
        n.dynamicBuffer (stdMax 0 n.latestSpeedMps)) := by
  intro s n s' b t decel hnearest hd hgrace hzone hread hprofile hforward
  have hpub : (network p).published s (.input .envelope (.scan scan now)) =
      [.envelopeStatus (n.onScan scan now)] :=
    Network.published_of_reads (Network.reads_input rfl)
  have hlog : s'.log[s.log.length]? = some (.envelopeStatus (n.onScan scan now)) :=
    log_of_published fs (j := 0) (by rw [hpub]; rfl)
  obtain rfl : Message.envelopeStatus (n.onScan scan now) = m :=
    Option.some.inj (hlog.symm.trans (coherent_stateAfter p monitor envelope _ _ _ _ _ hread).1)
  have hlimit : b.recommendedSpeedLimitMps =
      stdMax 0 (n.onScan scan now).recommendedSpeedLimitMps := by
    have hlast := bridge_recommended p monitor envelope
      (es ++ .input .envelope (.scan scan now) :: fs)
    rw [hread] at hlast
    exact hlast.trans (if_neg hzone)
  have hle : t.linearX ≤ stdMax 0 (n.onScan scan now).recommendedSpeedLimitMps := by
    have hclamped := SafetyDriveBridgeNode.controlTick_linearX_le (p := p.bridge)
      (limitsNonneg_stateAfter p monitor envelope _) hprofile nowTick
    rw [← hlimit]
    exact (le_abs_self _).trans (hclamped.trans ((min_le_left _ _).trans (min_le_right _ _)))
  have hrecommended : t.linearX ≤ (n.onScan scan now).recommendedSpeedLimitMps := by
    rw [stdMax_eq_max] at hle
    exact (le_max_iff.1 hle).resolve_left (not_le.2 hforward)
  unfold SafetyEnvelopeNode.onScan at hzone hrecommended
  rw [hnearest] at hzone hrecommended
  exact n.publishEnvelope_stops hd hgrace hzone hforward hrecommended

section Bringup

open SafetyEnvelopeNode (scanAhead)

/-- At rest, an obstacle 0.7 m away is a warning, with a limit above zero. -/
theorem onScan_bringup :
    (bringupEnvelope.onScan (scanAhead 0.7) 3000000000).zone = SafetyZone.warning.toRaw ∧
      0 < (bringupEnvelope.onScan (scanAhead 0.7) 3000000000).recommendedSpeedLimitMps := by
  have hwarning : (bringupEnvelope.evaluate 0.7 (stdMax 0 0)).zone = .warning := by
    rw [SafetyEnvelopeNode.evaluate_zone, requiredClearance_of_decel_pos]
    · norm_num [zoneOf, bringupEnvelope, bringupEnvelopeParams, SafetyEnvelopeNode.membersOf,
        SafetyEnvelopeNode.dynamicBuffer, SafetyEnvelopeNode.configOf, stdMin, stdAbs]
    · norm_num [bringupEnvelope, bringupEnvelopeParams, SafetyEnvelopeNode.membersOf,
        SafetyEnvelopeNode.configOf]
  rw [SafetyEnvelopeNode.onScan, nearestObstacle_bringup (by norm_num)]
  constructor
  · rw [SafetyEnvelopeNode.publishEnvelope_zone _ _ _ (by norm_num), inGracePeriod_bringup]
    change ((bringupEnvelope.evaluate 0.7 (stdMax 0 0)).zone.duringGrace false).toRaw = _
    rw [hwarning]
    rfl
  · rw [SafetyEnvelopeNode.publishEnvelope_limit _ (by norm_num) inGracePeriod_bringup]
    refine lt_of_lt_of_eq ?_ (evaluateStopDistance_of_warning _ _ _ _ _ hwarning).2.2.symm
    norm_num [bringupEnvelope, bringupEnvelopeParams, SafetyEnvelopeNode.membersOf,
      SafetyEnvelopeNode.dynamicBuffer, SafetyEnvelopeNode.configOf, stdMin, stdAbs,
      sqrt_eq_realSqrt]

/-- The planner asks for 0.1 m/s towards an obstacle 0.7 m away. -/
theorem commanded_speed_stops_scanAhead :
    let es : List (Event ℝ) :=
      [.input .envelope (.scan (scanAhead 0.7) 3000000000), .deliver .bridge 0 (0, 0),
        .input .bridge (.cmdVelNav ⟨0.1, 0⟩ 5)]
    let b : SafetyDriveBridgeNode ℝ :=
      (stateAfter bringup bringupMonitor bringupEnvelope es).nodes .bridge
    let t := (b.controlTick bringup.bridge 5).2
    0 < t.linearX ∧ t.linearX * t.linearX / (2 * 1.0) ≤ 7 / 10 * (0.7 - 0.1 - 0.5) := by
  intro es b t
  obtain ⟨hzone, hlimit⟩ := onScan_bringup
  have hclear : ¬ (bringupEnvelope.onScan (scanAhead 0.7) 3000000000).zone = 0 := by
    rw [hzone]
    decide
  let status := bringupEnvelope.onScan (scanAhead 0.7) 3000000000
  have hb : b =
      { SafetyDriveBridgeNode.initial with
        recommendedSpeedLimitMps := stdMax 0 status.recommendedSpeedLimitMps
        latestNavCmd := some ⟨0.1, 0⟩
        latestNavCmdTimeNs := 5 } := by
    change (SafetyDriveBridgeNode.onEnvelope bringup.bridge SafetyDriveBridgeNode.initial
      status.toEnvelopeStatus).onCmdVelNav ⟨0.1, 0⟩ 5 = _
    rw [SafetyDriveBridgeNode.onEnvelope, if_neg hclear]
    rfl
  have hforward : 0 < t.linearX := by
    have hfresh : TimeUtils.isStale 5 5 250000000 = false := by decide
    have ht : b.controlTick bringup.bridge 5 =
        b.processAndPublishCommand bringup.bridge ⟨0.1, 0⟩ := by
      rw [hb]
      exact SafetyDriveBridgeNode.controlTick_of_fresh bringup.bridge rfl hfresh rfl rfl
    change 0 < (b.controlTick bringup.bridge 5).2.linearX
    rw [ht, hb]
    change 0 < stdClamp 0.1
      (-stdMin (stdMin 1.5 (stdMax 0 status.recommendedSpeedLimitMps)) 1e9)
      (stdMin (stdMin 1.5 (stdMax 0 status.recommendedSpeedLimitMps)) 1e9)
    have hpos : 0 < stdMin (stdMin 1.5 (stdMax 0 status.recommendedSpeedLimitMps)) 1e9 := by
      rw [stdMin_eq_min, stdMin_eq_min, stdMax_eq_max]
      exact lt_min (lt_min (by norm_num) (lt_max_of_lt_right hlimit)) (by norm_num)
    rw [stdClamp_eq_max_min _ (by linarith)]
    exact lt_max_of_lt_right (lt_min (by norm_num) hpos)
  have hprofile : ¬ FollowsProfile b := by
    rintro ⟨-, hstop⟩
    rw [hb] at hstop
    cases hstop
  refine ⟨hforward, ?_⟩
  have hstops := (commanded_speed_stops bringup bringupMonitor bringupEnvelope []
    [.deliver .bridge 0 (0, 0), .input .bridge (.cmdVelNav ⟨0.1, 0⟩ 5)] (scanAhead 0.7) 3000000000
    5 (nearestObstacle_bringup (by norm_num)) (by norm_num) inGracePeriod_bringup hclear rfl
    hprofile hforward).2
  have hbuffer : bringupEnvelope.dynamicBuffer (stdMax 0 0) = 0.5 := by
    norm_num [bringupEnvelope, bringupEnvelopeParams, SafetyEnvelopeNode.membersOf,
      SafetyEnvelopeNode.dynamicBuffer, SafetyEnvelopeNode.configOf, stdMin, stdAbs]
  rw [← hbuffer]
  exact hstops

end Bringup

end SafetyStack

end SafetyCore
