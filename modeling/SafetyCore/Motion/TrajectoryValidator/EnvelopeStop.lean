import SafetyCore.Config.Validation
import SafetyCore.Motion.EmergencyStop.ClosedForm
import SafetyCore.Motion.TrajectoryValidator.Generated

/-!
# Emergency stops inside the envelope

A vehicle that brakes at least as hard as the envelope assumes gives up less clearance than
it travels, so a stop that starts inside the envelope stays inside as long as it moves. The
last round travels further than its speed needs for braking, and the point at rest is
outside where the latency has not left enough room for that.
-/

namespace SafetyCore

open Arithmetic Transition

namespace TrajectoryValidator

variable {K : Type*} [Field K] [LinearOrder K] [IsStrictOrderedRing K] [SquareRoot K]
  {v : TrajectoryValidator K} {speed accel jerk : K}

/-- Where no point but the last can leave the envelope, the last decides. -/
theorem validateFrom_append_singleton (hv : v.PermitsMotion speed accel jerk)
    {init : List (TrajectoryPoint K)} {last : TrajectoryPoint K}
    (hps : ∀ p ∈ init ++ [last], PointWithin speed accel jerk p)
    (hchain : (init ++ [last]).IsChain Advances) (hinit : ∀ p ∈ init, ¬ v.LeavesEnvelope p)
    (i : ℕ) {prev : Option (TrajectoryPoint K)}
    (hprev : ∀ q ∈ prev, ∀ p ∈ (init ++ [last]).head?, Advances q p) :
    v.validateFrom i prev (init ++ [last]) =
      if v.LeavesEnvelope last then
        { ok := false, violation := .envelopeViolation, failingIndex := i + init.length }
      else {} := by
  induction init generalizing i prev with
  | nil =>
      have hcheck := checkPoint_of_permitsMotion hv (hps last (by simp))
        fun q hq => hprev q hq last rfl
      rw [List.nil_append, validateFrom, hcheck]
      by_cases hleaves : v.LeavesEnvelope last
      · rw [if_pos hleaves, if_pos hleaves]
        rfl
      · rw [if_neg hleaves, if_neg hleaves]
        rfl
  | cons p init ih =>
      have hcheck := checkPoint_of_permitsMotion hv (hps p (by simp))
        fun q hq => hprev q hq p rfl
      rw [if_neg (hinit p List.mem_cons_self)] at hcheck
      have hnext : ∀ q ∈ some p, ∀ r ∈ (init ++ [last]).head?, Advances q r := by
        rintro q ⟨⟩ r hr
        exact (List.isChain_cons.1 hchain).1 r hr
      have hrest := ih (fun q hq => hps q (List.mem_cons_of_mem p hq)) hchain.tail
        (fun q hq => hinit q (List.mem_cons_of_mem p hq)) (i + 1) hnext
      rw [List.cons_append, validateFrom, hcheck, hrest, List.length_cons,
        Nat.add_right_comm, Nat.add_assoc]

theorem validate_append_singleton (hv : v.PermitsMotion speed accel jerk)
    {init : List (TrajectoryPoint K)} {last : TrajectoryPoint K}
    (hps : ∀ p ∈ init ++ [last], PointWithin speed accel jerk p)
    (hchain : (init ++ [last]).IsChain Advances)
    (hinit : ∀ p ∈ init, ¬ v.LeavesEnvelope p) :
    v.validate (some (init ++ [last])) =
      if v.LeavesEnvelope last then
        { ok := false, violation := .envelopeViolation, failingIndex := init.length }
      else {} := by
  have hnone : ∀ q ∈ (none : Option (TrajectoryPoint K)),
      ∀ p ∈ (init ++ [last]).head?, Advances q p := nofun
  have hfrom := validateFrom_append_singleton hv hps hchain hinit 0 hnone
  rw [Nat.zero_add] at hfrom
  rw [← hfrom]
  cases init <;> rfl

/-- A configured validator with an obstacle. -/
def withObstacle (cfg : SystemConfig K) (jerkLimit obstacleDistance : K) :
    TrajectoryValidator K :=
  ((({} : TrajectoryValidator K).applyConfig cfg).setMaxJerkMps3
    jerkLimit).setObstacleDistanceM obstacleDistance

variable {cfg : SystemConfig K} {jerkLimit obstacleDistance : K}

omit [IsStrictOrderedRing K] [SquareRoot K] in
theorem withObstacle_permitsMotion (jerkLimit obstacleDistance : K)
    (hspeed : speed ≤ cfg.envelope.maxSpeedMps)
    (haccel : accel ≤ cfg.envelope.maxAccelMps2) :
    (withObstacle cfg jerkLimit obstacleDistance).PermitsMotion speed accel 0 where
  speed_le := by
    rintro _ ⟨⟩
    exact hspeed
  accel_le := by
    rintro _ ⟨⟩
    exact haccel
  jerk_le := by
    change 0 ≤ if jerkLimit < 0 then 0 else jerkLimit
    split
    · exact le_rfl
    · exact not_lt.1 ‹_›

/-- With the values of an accepted configuration, a point leaves the envelope where less is
left than the latency, the braking distance and the buffer take. -/
theorem withObstacle_leavesEnvelope (jerkLimit : K) (hD : 0 ≤ obstacleDistance)
    (hcomfort : 0 < cfg.envelope.maxComfortDecelMps2)
    (hlatency : 0 ≤ cfg.envelope.controlLatencyS) {p : TrajectoryPoint K}
    (hp : 0 ≤ p.speedMps) :
    (withObstacle cfg jerkLimit obstacleDistance).LeavesEnvelope p ↔
      obstacleDistance - p.distanceM <
        p.speedMps * cfg.envelope.controlLatencyS +
          p.speedMps * p.speedMps / (2 * cfg.envelope.maxComfortDecelMps2) +
          cfg.envelope.safetyBufferM := by
  have hwithin : (evaluateStopDistanceIn (obstacleDistance - p.distanceM) p.speedMps
      cfg.envelope).withinEnvelope = true ↔ _ := evaluateStopDistance_withinEnvelope ..
  rw [requiredClearance_of_decel_pos _ _ _ hcomfort, WithTop.coe_le_coe, max_eq_right hp,
    max_eq_right hlatency] at hwithin
  rw [← not_le, ← hwithin, Bool.not_eq_true, ← Bool.not_eq_true']
  exact and_iff_right hD

end TrajectoryValidator

namespace Motion

open TrajectoryValidator (withObstacle)

variable {K : Type*} [Field K] [LinearOrder K] [IsStrictOrderedRing K] [SquareRoot K]
  {cfg : SystemConfig K} {policy : ValidationPolicy}
  {jerkLimit obstacleDistance initialSpeed maxDecel dt : K} {capacity : ℕ}

omit [SquareRoot K] in
/-- At the stronger deceleration the way from one speed to a lower one is no longer than the
braking distances differ. -/
theorem braking_le {v w decel decel' : K} (hdecel : 0 < decel) (hle : decel ≤ decel')
    (hw : 0 ≤ w) (hwv : w ≤ v) :
    w * w / (2 * decel) + (v ^ 2 - w ^ 2) / (2 * decel') ≤ v * v / (2 * decel) := by
  have hsq : 0 ≤ v * v - w * w := sub_nonneg.2 (mul_self_le_mul_self hw hwv)
  have hway : (v * v - w * w) / (2 * decel') ≤ (v * v - w * w) / (2 * decel) := by gcongr
  rw [sq, sq, add_comm, ← le_sub_iff_add_le, ← sub_div]
  exact hway

omit [IsStrictOrderedRing K] [SquareRoot K] in
/-- The first point of the stop has the initial speed. -/
theorem head?_emergencyTrace {n : ℕ}
    (h : (emergencyRounds maxDecel dt).EndsAfter n ⟨0, max 0 initialSpeed, 0⟩) :
    ∃ p, ((emergencyRounds maxDecel dt).trace n ⟨0, max 0 initialSpeed, 0⟩).head? =
      some p ∧ p.speedMps = max 0 initialSpeed ∧ p.distanceM = 0 := by
  cases n with
  | zero =>
      have hrest : ¬ 0 < max 0 initialSpeed := fun hpos =>
        Bool.false_ne_true (h.symm.trans (emergencyRounds_goesOn.2 hpos))
      exact ⟨_, rfl, le_antisymm (le_max_left _ _) (not_lt.1 hrest), rfl⟩
  | succ n => exact ⟨_, rfl, rfl, rfl⟩

omit [SquareRoot K] in
/-- The clearance that a moving point requires is left, if it was at the start. -/
theorem requiredClearance_left {s : EmergencyState K} {comfort latency buffer : K}
    (hcomfort : 0 < comfort) (hle : comfort ≤ maxDecel) (hdt : 0 < dt) (hlatency : 0 ≤ latency)
    (hv : 0 ≤ s.v) {i : ℕ} (hi : i * (maxDecel * dt) ≤ s.v)
    (hstart : s.v * latency + s.v * s.v / (2 * comfort) + buffer ≤ obstacleDistance - s.x) :
    ((emergencyRounds maxDecel dt).next^[i] s).v * latency +
          ((emergencyRounds maxDecel dt).next^[i] s).v *
            ((emergencyRounds maxDecel dt).next^[i] s).v / (2 * comfort) + buffer ≤
      obstacleDistance - ((emergencyRounds maxDecel dt).next^[i] s).x := by
  have hd := hcomfort.trans_le hle
  have hstep := mul_pos hd hdt
  rw [emergencyRounds_iterate_x hd hdt hv hi, emergencyRounds_iterate_v hstep.le hv,
    max_eq_right (sub_nonneg.2 hi)]
  have hslower : s.v - i * (maxDecel * dt) ≤ s.v := sub_le_self s.v (by positivity)
  have hbraking := braking_le hcomfort hle (sub_nonneg.2 hi) hslower
  have hreaction := mul_le_mul_of_nonneg_right hslower hlatency
  linarith

/-- A stop that starts inside the envelope leaves it at most with its last point. -/
theorem validate_emergencyStop_withObstacle
    (haccepted : Accepted cfg policy) (hD : 0 ≤ obstacleDistance)
    (hspeed : initialSpeed ≤ cfg.envelope.maxSpeedMps)
    (hcomfort : cfg.envelope.maxComfortDecelMps2 ≤ maxDecel)
    (haccel : maxDecel ≤ cfg.envelope.maxAccelMps2)
    (hok : (generateEmergencyStopProfile initialSpeed maxDecel dt capacity).ok = true)
    (hstart : max 0 initialSpeed * cfg.envelope.controlLatencyS +
      max 0 initialSpeed * max 0 initialSpeed / (2 * cfg.envelope.maxComfortDecelMps2) +
      cfg.envelope.safetyBufferM ≤ obstacleDistance)
    {last : TrajectoryPoint K}
    (hlast : (generateEmergencyStopProfile initialSpeed maxDecel dt
      capacity).points.getLast? = some last) :
    (withObstacle cfg jerkLimit obstacleDistance).validate
        (some (generateEmergencyStopProfile initialSpeed maxDecel dt capacity).points) =
      if obstacleDistance < last.distanceM + cfg.envelope.safetyBufferM then
        { ok := false
          violation := .envelopeViolation
          failingIndex := (generateEmergencyStopProfile initialSpeed maxDecel dt
            capacity).points.length - 1 }
      else {} := by
  obtain ⟨hmax, hrest⟩ := not_or.1 haccepted.positive
  have hpositive : 0 < cfg.envelope.maxComfortDecelMps2 := not_le.1 (not_or.1 hrest).2
  have hlatency := not_lt.1 haccepted.latency_nonneg
  obtain ⟨-, hregular⟩ := generateEmergencyStopProfile_regular hok
  obtain ⟨hd, hdt, n, -, hends, hpoints⟩ := generateEmergencyStopProfile_of_ok hok
  have hv : 0 ≤ max 0 initialSpeed := le_max_left _ _
  have hstep := mul_pos hd hdt
  have hpermits := TrajectoryValidator.withObstacle_permitsMotion jerkLimit obstacleDistance
    (max_le (not_le.1 hmax).le hspeed) haccel
  have hleaves {p : TrajectoryPoint K} (hp : 0 ≤ p.speedMps) :=
    TrajectoryValidator.withObstacle_leavesEnvelope jerkLimit hD hpositive hlatency hp
  rw [hpoints] at hregular hlast ⊢
  rw [BufferedLoop.getLast?_trace, Option.some.injEq] at hlast
  subst hlast
  rw [BufferedLoop.length_trace, Nat.add_sub_cancel]
  rw [BufferedLoop.trace_eq_map_range] at hregular ⊢
  have hmoving : ∀ p ∈ (List.range n).map fun i => (emergencyRounds maxDecel dt).emit
      ((emergencyRounds maxDecel dt).next^[i] ⟨0, max 0 initialSpeed, 0⟩),
      ¬ (withObstacle cfg jerkLimit obstacleDistance).LeavesEnvelope p := by
    intro p hp
    obtain ⟨i, hi, rfl⟩ := List.mem_map.1 hp
    have hgo := (BufferedLoop.endsAfter_iff.1 hends).1 i (List.mem_range.1 hi)
    rw [emergencyRounds_goesOn] at hgo
    have hfull : i * (maxDecel * dt) ≤ max 0 initialSpeed := by
      rw [emergencyRounds_iterate_v hstep.le hv, lt_max_iff, or_iff_right (lt_irrefl _)] at hgo
      exact (sub_pos.1 hgo).le
    rw [hleaves hgo.le, not_lt]
    exact requiredClearance_left (s := ⟨0, max 0 initialSpeed, 0⟩) hpositive hcomfort hdt
      hlatency hv hfull (by simpa using hstart)
  rw [TrajectoryValidator.validate_append_singleton hpermits hregular.within hregular.chain
    hmoving, List.length_map, List.length_range]
  refine if_congr ?_ rfl rfl
  rw [hleaves le_rfl]
  simp [emergencyRounds, sub_lt_iff_lt_add']

omit [SquareRoot K] in
/-- Half a step at the initial speed makes up for what the last round travels too far. -/
theorem emergencyStop_end_le {n : ℕ} (hd : 0 < maxDecel) (hdt : 0 < dt) {s : EmergencyState K}
    (hv : 0 ≤ s.v) (h : (emergencyRounds maxDecel dt).EndsAfter n s) {latency : K}
    (hlatency : dt ≤ 2 * latency) :
    ((emergencyRounds maxDecel dt).next^[n] s).x ≤
      s.x + s.v * latency + s.v * s.v / (2 * maxDecel) := by
  obtain ⟨w, hw, -, hwv, hx⟩ := emergencyRounds_end_x hd hdt hv h
  have hexcess : w * (maxDecel * dt - w) / (2 * maxDecel) ≤ s.v * latency := by
    have hslow : w * dt ≤ s.v * (2 * latency) := by gcongr
    have hsq := mul_self_nonneg w
    have hscaled := mul_le_mul_of_nonneg_left hslow hd.le
    rw [div_le_iff₀ (by positivity)]
    linarith
  rw [hx, sq]
  linarith

/-- For every accepted configuration, obstacle distance, initial speed up to the maximum and
deceleration between the comfortable one and the maximum: if the first point of the emergency
stop is inside the envelope, the validator reports an envelope violation at most at the last
point, where the vehicle has stopped, and there if and only if less than the buffer is left.
Where a step is no longer than twice the latency, it accepts the stop. -/
theorem validate_emergencyStop_inside (cfg : SystemConfig K) (policy : ValidationPolicy)
    (jerkLimit obstacleDistance initialSpeed maxDecel dt : K) (capacity : ℕ)
    (haccepted : (SafetyCore.validate cfg policy).ok = true) (hD : 0 ≤ obstacleDistance)
    (hspeed : initialSpeed ≤ cfg.envelope.maxSpeedMps)
    (hcomfort : cfg.envelope.maxComfortDecelMps2 ≤ maxDecel)
    (haccel : maxDecel ≤ cfg.envelope.maxAccelMps2)
    (hok : (generateEmergencyStopProfile initialSpeed maxDecel dt capacity).ok = true)
    (hfirst : ∀ p ∈ (generateEmergencyStopProfile initialSpeed maxDecel dt
      capacity).points.head?, (evaluateStopDistanceIn (obstacleDistance - p.distanceM)
        p.speedMps cfg.envelope).withinEnvelope = true) :
    ∃ last, (generateEmergencyStopProfile initialSpeed maxDecel dt
          capacity).points.getLast? = some last ∧ last.speedMps = 0 ∧
      (withObstacle cfg jerkLimit obstacleDistance).validate
          (some (generateEmergencyStopProfile initialSpeed maxDecel dt capacity).points) =
        (if obstacleDistance < last.distanceM + cfg.envelope.safetyBufferM then
          { ok := false
            violation := .envelopeViolation
            failingIndex := (generateEmergencyStopProfile initialSpeed maxDecel dt
              capacity).points.length - 1 }
        else {}) ∧
      (dt ≤ 2 * cfg.envelope.controlLatencyS →
        last.distanceM + cfg.envelope.safetyBufferM ≤ obstacleDistance) := by
  have hcfg := (validate_ok_iff cfg policy).1 haccepted
  have hpositive : 0 < cfg.envelope.maxComfortDecelMps2 :=
    not_le.1 (not_or.1 (not_or.1 hcfg.positive).2).2
  have hlatency := not_lt.1 hcfg.latency_nonneg
  obtain ⟨hd, hdt, n, -, hends, hpoints⟩ := generateEmergencyStopProfile_of_ok hok
  have hv : 0 ≤ max 0 initialSpeed := le_max_left _ _
  have hstart : max 0 initialSpeed * cfg.envelope.controlLatencyS +
      max 0 initialSpeed * max 0 initialSpeed / (2 * cfg.envelope.maxComfortDecelMps2) +
      cfg.envelope.safetyBufferM ≤ obstacleDistance := by
    obtain ⟨p, hp, hpspeed, hpdistance⟩ := head?_emergencyTrace hends
    have hinside := hfirst p (by rw [hpoints]; exact hp)
    rw [hpspeed, hpdistance, sub_zero, evaluateStopDistanceIn,
      evaluateStopDistance_withinEnvelope, requiredClearance_of_decel_pos _ _ _ hpositive,
      WithTop.coe_le_coe, max_eq_right hv, max_eq_right hlatency] at hinside
    exact hinside
  have hlast := BufferedLoop.getLast?_trace (L := emergencyRounds maxDecel dt) n
    ⟨0, max 0 initialSpeed, 0⟩
  rw [← hpoints] at hlast
  refine ⟨_, hlast, rfl, validate_emergencyStop_withObstacle hcfg hD hspeed hcomfort haccel
    hok hstart hlast, fun hstep => ?_⟩
  have hend := emergencyStop_end_le hd hdt hv hends hstep
  have hbraking : max 0 initialSpeed * max 0 initialSpeed / (2 * maxDecel) ≤
      max 0 initialSpeed * max 0 initialSpeed / (2 * cfg.envelope.maxComfortDecelMps2) := by
    gcongr
  rw [zero_add] at hend
  exact (add_le_add_left hend _).trans (by linarith)

/-- The configuration of the tests with a comfortable deceleration up to the maximum. -/
def briskConfig {α : Type*} [OfScientific α] : SystemConfig α :=
  { (makeConfig : SystemConfig α) with
    envelope := { (makeConfig : SystemConfig α).envelope with maxComfortDecelMps2 := 0.75 } }

theorem briskConfig_accepted :
    (SafetyCore.validate (briskConfig : SystemConfig ℝ) .strict).ok = true := by
  have h := makeConfig_accepted (K := ℝ) .strict
  refine (validate_ok_iff _ _).2 { h with positive := ?_ }
  norm_num [briskConfig, makeConfig]

/-- One step of a second brings 0.5 m/s to rest. -/
theorem generate_oneStep : generateEmergencyStopProfile (1 / 2 : ℝ) (3 / 4) 1 2 =
    { ok := true, points := [⟨0, 1 / 2, -1 / 2, 0, 0⟩, ⟨1, 0, 0, 0, 1 / 4⟩] } := by
  norm_num [generateEmergencyStopProfile, emergencyLoop, isFinite]

theorem briskConfig_limits : 1 / 2 ≤ (briskConfig : SystemConfig ℝ).envelope.maxSpeedMps ∧
    (briskConfig : SystemConfig ℝ).envelope.maxComfortDecelMps2 ≤ 3 / 4 ∧
    3 / 4 ≤ (briskConfig : SystemConfig ℝ).envelope.maxAccelMps2 := by
  norm_num [briskConfig, makeConfig]

/-- The stop starts inside the envelope from five twelfths of a metre on. -/
theorem oneStep_inside {D : ℝ} (hD : 5 / 12 ≤ D) :
    ∀ p ∈ (generateEmergencyStopProfile (1 / 2 : ℝ) (3 / 4) 1 2).points.head?,
      (evaluateStopDistanceIn (D - p.distanceM) p.speedMps
        briskConfig.envelope).withinEnvelope = true := by
  rw [generate_oneStep]
  rintro p ⟨⟩
  rw [evaluateStopDistanceIn, evaluateStopDistance_withinEnvelope,
    requiredClearance_of_decel_pos _ _ _ (by norm_num [briskConfig]), WithTop.coe_le_coe]
  norm_num [briskConfig, makeConfig, hD]

/-- With 1 m to the obstacle the stop is accepted. -/
theorem validate_emergencyStop_inside_real :
    ∃ last, (generateEmergencyStopProfile (1 / 2 : ℝ) (3 / 4) 1 2).points.getLast? = some last ∧
      last.speedMps = 0 ∧
      (withObstacle briskConfig 5 1).validate
        (some (generateEmergencyStopProfile (1 / 2 : ℝ) (3 / 4) 1 2).points) = {} := by
  obtain ⟨hspeed, hcomfort, haccel⟩ := briskConfig_limits
  obtain ⟨last, hlast, hstopped, hresult, -⟩ := validate_emergencyStop_inside briskConfig .strict
    5 1 (1 / 2) (3 / 4) 1 2 briskConfig_accepted one_pos.le hspeed hcomfort haccel
    (by rw [generate_oneStep]) (oneStep_inside (by norm_num))
  refine ⟨last, hlast, hstopped, ?_⟩
  rw [hresult, if_neg]
  rw [generate_oneStep] at hlast
  cases hlast
  norm_num [briskConfig, makeConfig]

/-- With 0.42 m to the obstacle it starts inside the envelope and ends outside. -/
theorem validate_emergencyStop_leaves :
    ¬ ∀ (cfg : SystemConfig ℝ) (policy : ValidationPolicy)
      (jerkLimit obstacleDistance initialSpeed maxDecel dt : ℝ) (capacity : ℕ),
      (SafetyCore.validate cfg policy).ok = true → 0 ≤ obstacleDistance →
      initialSpeed ≤ cfg.envelope.maxSpeedMps →
      cfg.envelope.maxComfortDecelMps2 ≤ maxDecel →
      maxDecel ≤ cfg.envelope.maxAccelMps2 →
      (generateEmergencyStopProfile initialSpeed maxDecel dt capacity).ok = true →
      (∀ p ∈ (generateEmergencyStopProfile initialSpeed maxDecel dt capacity).points.head?,
        (evaluateStopDistanceIn (obstacleDistance - p.distanceM) p.speedMps
          cfg.envelope).withinEnvelope = true) →
      ((withObstacle cfg jerkLimit obstacleDistance).validate
        (some (generateEmergencyStopProfile initialSpeed maxDecel dt
          capacity).points)).violation = .envelopeViolation →
      ((withObstacle cfg jerkLimit obstacleDistance).validate
        (some (generateEmergencyStopProfile initialSpeed maxDecel dt
          capacity).points)).failingIndex = 0 := by
  intro h
  obtain ⟨hspeed, hcomfort, haccel⟩ := briskConfig_limits
  have hD : (0 : ℝ) ≤ 21 / 50 := by norm_num
  have hok : (generateEmergencyStopProfile (1 / 2 : ℝ) (3 / 4) 1 2).ok = true := by
    rw [generate_oneStep]
  have hlast : (generateEmergencyStopProfile (1 / 2 : ℝ) (3 / 4) 1 2).points.getLast? =
      some ⟨1, 0, 0, 0, 1 / 4⟩ := by
    rw [generate_oneStep]
    rfl
  have hresult : (withObstacle briskConfig 5 (21 / 50)).validate
      (some (generateEmergencyStopProfile (1 / 2 : ℝ) (3 / 4) 1 2).points) = _ :=
    validate_emergencyStop_withObstacle ((validate_ok_iff _ _).1 briskConfig_accepted) hD
      hspeed hcomfort haccel hok (by norm_num [briskConfig, makeConfig]) hlast
  rw [if_pos (by norm_num [briskConfig, makeConfig])] at hresult
  have hindex := h briskConfig .strict 5 (21 / 50) (1 / 2) (3 / 4) 1 2 briskConfig_accepted hD
    hspeed hcomfort haccel hok (oneStep_inside (by norm_num)) (by rw [hresult])
  rw [hresult, generate_oneStep] at hindex
  exact absurd hindex (by simp)

end Motion

end SafetyCore
