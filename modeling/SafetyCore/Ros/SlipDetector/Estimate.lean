import Mathlib.Algebra.Order.Archimedean.Real.Basic
import SafetyCore.Ros.SlipDetector

/-!
# The speed estimate of the slip detector

Every IMU message multiplies the estimate by a factor that decays with the time step, so the
estimate never exceeds the largest acceleration times the decay time, and it tends to zero as soon
as the vehicle keeps its speed. The speed of the wheels does not. A vehicle that is fast enough,
or that has kept its speed for long enough, is therefore reported to slip by every tick that
publishes anything.
-/

namespace SafetyCore

open Arithmetic Transition

namespace SlipDetectorNode

section Estimate

variable {n : SlipDetectorNode ℝ}

/-- The acceleration that an event reports. -/
def Event.acceleration : Event ℝ → ℝ
  | .imu msg _ => msg.linearAccelerationX
  | _ => 0

/-- The time over which an event is integrated: the time since the last IMU message, if that is
reasonable. -/
noncomputable def timeStep (n : SlipDetectorNode ℝ) : Event ℝ → ℝ
  | .imu msg _ =>
      match n.lastImuTime with
      | some lastImuTime =>
          let dt : ℝ := msg.stamp.secondsSince lastImuTime
          if dt ≤ 0 ∨ 0.5 < dt then 0 else dt
      | none => 0
  | _ => 0

theorem timeStep_nonneg (n : SlipDetectorNode ℝ) (e : Event ℝ) : 0 ≤ n.timeStep e := by
  unfold timeStep
  split
  · split
    · dsimp only
      split_ifs with h
      · exact le_rfl
      · exact (not_le.1 (not_or.1 h).1).le
    · exact le_rfl
  · exact le_rfl

/-- The time over which a run integrates. -/
noncomputable def integratedTime : SlipDetectorNode ℝ → List (Event ℝ) → ℝ
  | _, [] => 0
  | n, e :: es => n.timeStep e + (component.next n e).integratedTime es

theorem timerTick_frame (n : SlipDetectorNode ℝ) :
    n.timerTick.1.params = n.params ∧ n.timerTick.1.imuVelX = n.imuVelX := by
  unfold timerTick
  split
  · exact ⟨rfl, rfl⟩
  · exact ⟨rfl, rfl⟩
  · dsimp only
    split_ifs <;> exact ⟨rfl, rfl⟩

theorem next_params (n : SlipDetectorNode ℝ) (e : Event ℝ) :
    (component.next n e).params = n.params := by
  cases e with
  | odom msg => rfl
  | timerTick => exact n.timerTick_frame.1
  | imu msg _ =>
      change (n.onImu msg).params = n.params
      unfold onImu updateImuVelocityEstimate
      dsimp only
      cases n.lastImuTime with
      | none => rfl
      | some lastImuTime =>
          dsimp only
          split_ifs <;> rfl

theorem run_params (n : SlipDetectorNode ℝ) (es : List (Event ℝ)) :
    (component.run n es).params = n.params :=
  Component.Preserved.run (C := component) (I := fun n' => n'.params = n.params)
    (fun n' e h => (next_params n' e).trans h) rfl es

/-- What an event makes of the estimate. -/
theorem next_imuVelX (n : SlipDetectorNode ℝ) (e : Event ℝ) :
    (component.next n e).imuVelX =
      (n.imuVelX + e.acceleration * n.timeStep e) *
        Real.exp (-n.timeStep e / n.params.imuVelDecayTimeS) := by
  have hkept : ∀ a : ℝ, n.imuVelX =
      (n.imuVelX + a * 0) * Real.exp (-0 / n.params.imuVelDecayTimeS) := by simp
  cases e with
  | odom msg => exact hkept _
  | timerTick => exact n.timerTick_frame.2.trans (hkept _)
  | imu msg _ =>
      change (n.onImu msg).imuVelX = _
      unfold onImu updateImuVelocityEstimate timeStep Event.acceleration
      dsimp only
      cases n.lastImuTime with
      | none => exact hkept _
      | some lastImuTime =>
          dsimp only
          split_ifs
          · exact hkept _
          · rfl

end Estimate

/-! ## Bounds over the runs -/

section Bounds

variable {n : SlipDetectorNode ℝ} {a : ℝ}

/-- The growth of a step is taken back by its decay. -/
theorem abs_step_le {v acceleration dt decayTime : ℝ} (hdecay : 0 < decayTime) (hdt : 0 ≤ dt)
    (hv : |v| ≤ a * decayTime) (ha : |acceleration| ≤ a) :
    |(v + acceleration * dt) * Real.exp (-dt / decayTime)| ≤ a * decayTime := by
  have hgrown : |v + acceleration * dt| ≤ a * decayTime * (dt / decayTime + 1) := by
    calc |v + acceleration * dt| ≤ |v| + |acceleration * dt| := abs_add_le _ _
      _ = |v| + |acceleration| * dt := by rw [abs_mul, abs_of_nonneg hdt]
      _ ≤ a * decayTime + a * dt := add_le_add hv (mul_le_mul_of_nonneg_right ha hdt)
      _ = a * decayTime * (dt / decayTime + 1) := by
        field_simp
        ring
  have hexp : dt / decayTime + 1 ≤ Real.exp (dt / decayTime) := Real.add_one_le_exp _
  have hpos : 0 ≤ a * decayTime := (abs_nonneg v).trans hv
  rw [abs_mul, abs_of_pos (Real.exp_pos _), neg_div, Real.exp_neg, ← div_eq_mul_inv,
    div_le_iff₀ (Real.exp_pos _)]
  exact hgrown.trans (mul_le_mul_of_nonneg_left hexp hpos)

theorem abs_imuVelX_le (hdecay : 0 < n.params.imuVelDecayTimeS)
    (hn : |n.imuVelX| ≤ a * n.params.imuVelDecayTimeS) {es : List (Event ℝ)}
    (hes : ∀ e ∈ es, |e.acceleration| ≤ a) :
    |(component.run n es).imuVelX| ≤ a * n.params.imuVelDecayTimeS := by
  induction es generalizing n with
  | nil => exact hn
  | cons e es ih =>
      have hstep : |(component.next n e).imuVelX| ≤ a * n.params.imuVelDecayTimeS := by
        rw [next_imuVelX]
        exact abs_step_le hdecay (n.timeStep_nonneg e) hn (hes e List.mem_cons_self)
      have hrest := ih (n := component.next n e) (by rwa [next_params]) (by rwa [next_params])
        fun e' he' => hes e' (List.mem_cons_of_mem _ he')
      rwa [next_params] at hrest

/-- Without acceleration the estimate decays over the time that is integrated. -/
theorem imuVelX_of_coasting {es : List (Event ℝ)} (hes : ∀ e ∈ es, e.acceleration = 0) :
    (component.run n es).imuVelX =
      n.imuVelX * Real.exp (-n.integratedTime es / n.params.imuVelDecayTimeS) := by
  induction es generalizing n with
  | nil => simp [integratedTime]
  | cons e es ih =>
      have hstep := next_imuVelX n e
      rw [hes e List.mem_cons_self, zero_mul, add_zero] at hstep
      change (component.run (component.next n e) es).imuVelX = _
      rw [ih fun e' he' => hes e' (List.mem_cons_of_mem _ he'), hstep, next_params, mul_assoc,
        ← Real.exp_add, integratedTime]
      congr 2
      ring

end Bounds

/-! ## Reports -/

section Reports

variable {n : SlipDetectorNode ℝ}

/-- A tick that publishes something compares the last two messages. -/
theorem timerTick_eq_some_iff {msgs : SlipDetected ℝ × SensorHealthMsg ℝ} :
    n.timerTick.2 = some msgs ↔
      ∃ odom imu, n.latestOdom = some odom ∧ n.latestImu = some imu ∧
        ¬ n.params.maxImuAgeS < stdAbs (odom.stamp.seconds - imu.stamp.seconds) ∧
        (n.compare odom imu).2 = msgs := by
  unfold timerTick
  cases n.latestOdom with
  | none => simp
  | some odom =>
      cases n.latestImu with
      | none => simp
      | some imu =>
          dsimp only
          split_ifs with hage
          · simp [hage]
          · simp [not_lt.1 hage]

/-- Wheels that are faster than the estimate by more than the threshold slip. -/
theorem compare_of_fast {odom : Odometry ℝ} (imu : Imu ℝ)
    (h : |n.imuVelX| + n.params.slipThresholdMps < |odom.linearX|) :
    (n.compare odom imu).2.1.isSlipping = true ∧
      (n.compare odom imu).2.2.status = SensorHealth.degraded := by
  have hdiff : n.linearSlip (stdAbs (odom.linearX - n.imuVelX)) = true := by
    have habs := abs_sub_abs_le_abs_sub odom.linearX n.imuVelX
    unfold linearSlip
    rw [stdAbs_eq_abs]
    exact decide_eq_true (by linarith)
  unfold compare buildHealthMsg buildSlipMsg
  simp [hdiff]

theorem decayTime_of_create {loaded : SlipDetectorParams ℝ} (h : create loaded = .ok n) :
    0 < n.params.imuVelDecayTimeS ∧ n.imuVelX = 0 := by
  unfold create at h
  dsimp only at h
  by_cases hdecay : loaded.imuVelDecayTimeS ≤ 0
  · rw [if_pos hdecay] at h
    cases h
  · rw [if_neg hdecay] at h
    by_cases hperiod : loaded.publishPeriodS ≤ 0
    · rw [if_pos hperiod] at h
      cases h
    · rw [if_neg hperiod] at h
      cases h
      exact ⟨not_le.1 hdecay, rfl⟩

/-- What the accelerations of a run leave in the estimate after a time without acceleration. -/
theorem abs_imuVelX_coasting_le {loaded : SlipDetectorParams ℝ} (hn : create loaded = .ok n)
    {es fs : List (Event ℝ)} {a : ℝ} (ha : 0 ≤ a) (hes : ∀ e ∈ es, |e.acceleration| ≤ a)
    (hfs : ∀ e ∈ fs, e.acceleration = 0) :
    |(component.run n (es ++ fs)).imuVelX| ≤ a * n.params.imuVelDecayTimeS *
      Real.exp (-(component.run n es).integratedTime fs / n.params.imuVelDecayTimeS) := by
  obtain ⟨hdecay, hzero⟩ := decayTime_of_create hn
  have hstart : |n.imuVelX| ≤ a * n.params.imuVelDecayTimeS := by
    rw [hzero, abs_zero]
    exact mul_nonneg ha hdecay.le
  rw [Component.run_append, imuVelX_of_coasting hfs, run_params, abs_mul,
    abs_of_pos (Real.exp_pos _)]
  exact mul_le_mul_of_nonneg_right (abs_imuVelX_le hdecay hstart hes) (Real.exp_pos _).le

/-- Take a run of a constructed node in which no acceleration exceeds `a`, and then a time without
acceleration. The estimate is at most `a` times the decay time, diminished by the decay over that
time. Every tick that publishes something while the wheels are faster than that by more than the
threshold reports a slip. -/
theorem slip_of_fast (loaded : SlipDetectorParams ℝ) (hn : create loaded = .ok n)
    (es fs : List (Event ℝ)) {a : ℝ} (ha : 0 ≤ a) (hes : ∀ e ∈ es, |e.acceleration| ≤ a)
    (hfs : ∀ e ∈ fs, e.acceleration = 0) :
    |(component.run n (es ++ fs)).imuVelX| ≤ a * n.params.imuVelDecayTimeS *
        Real.exp (-(component.run n es).integratedTime fs / n.params.imuVelDecayTimeS) ∧
      ∀ (odom : Odometry ℝ) (slip : SlipDetected ℝ) (health : SensorHealthMsg ℝ),
        (component.run n (es ++ fs)).latestOdom = some odom →
        a * n.params.imuVelDecayTimeS *
            Real.exp (-(component.run n es).integratedTime fs / n.params.imuVelDecayTimeS) +
          n.params.slipThresholdMps < |odom.linearX| →
        (component.run n (es ++ fs)).timerTick.2 = some (slip, health) →
        slip.isSlipping = true ∧ health.status = SensorHealth.degraded := by
  have hbound := abs_imuVelX_coasting_le hn ha hes hfs
  refine ⟨hbound, fun odom slip health hodom hfast htick => ?_⟩
  obtain ⟨odom', imu, hodom', -, -, hmsgs⟩ := timerTick_eq_some_iff.1 htick
  cases hodom.symm.trans hodom'
  have hexceeds : |(component.run n (es ++ fs)).imuVelX| +
      (component.run n (es ++ fs)).params.slipThresholdMps < |odom.linearX| := by
    rw [run_params]
    exact (add_le_add_left hbound _).trans_lt hfast
  have hslip := compare_of_fast imu hexceeds
  rwa [hmsgs] at hslip

/-- The node with its default parameters. -/
noncomputable def defaultNode : SlipDetectorNode ℝ where
  params := {}
  latestOdom := none
  latestImu := none
  imuVelX := 0
  lastImuTime := none
  isSlipping := false
  lastSlipMagnitude := 0
  lastSlipRatio := 0
  lastDetail := ""

theorem create_default : create ({} : SlipDetectorParams ℝ) = .ok defaultNode := by
  norm_num [create, defaultNode]

/-- Half a second of three quarters of a metre per second squared. -/
noncomputable def speedUp : List (Event ℝ) :=
  [.imu ⟨⟨1, 0⟩, 0.75, 0⟩ (by decide), .imu ⟨⟨1, 500000000⟩, 0.75, 0⟩ (by decide)]

/-- A second without acceleration, at the maximum speed of the wheels. -/
noncomputable def cruise : List (Event ℝ) :=
  [.imu ⟨⟨2, 0⟩, 0, 0⟩ (by decide), .imu ⟨⟨2, 500000000⟩, 0, 0⟩ (by decide),
    .odom ⟨⟨2, 500000000⟩, 1.5, 0⟩]

theorem onImu_latestImu (n : SlipDetectorNode ℝ) (msg : Imu ℝ) :
    (n.onImu msg).latestImu = some msg := by
  unfold onImu updateImuVelocityEstimate
  dsimp only
  split
  · split_ifs <;> rfl
  · rfl

/-- An IMU message half a second after the last one is integrated over that time. -/
theorem timeStep_half {last : Stamp} (hlast : n.lastImuTime = some last) (msg : Imu ℝ)
    (stamp_valid : 0 ≤ msg.stamp.sec.toInt) (hns : msg.stamp.ns - last.ns = 500000000) :
    n.timeStep (.imu msg stamp_valid) = 0.5 := by
  have hdt : (msg.stamp.secondsSince last : ℝ) = 0.5 := by
    rw [Stamp.secondsSince, hns]
    norm_num
  simp only [timeStep, hlast, hdt]
  norm_num

theorem integratedTime_cruise :
    (component.run defaultNode speedUp).integratedTime cruise = 1 := by
  set n := component.run defaultNode speedUp with hn
  have hlast : n.lastImuTime = some ⟨1, 500000000⟩ := rfl
  have hfirst := timeStep_half hlast ⟨⟨2, 0⟩, 0, 0⟩ (by decide) (by decide)
  have hlast' : (n.onImu ⟨⟨2, 0⟩, 0, 0⟩).lastImuTime = some ⟨2, 0⟩ := rfl
  have hsecond := timeStep_half hlast' ⟨⟨2, 500000000⟩, 0, 0⟩ (by decide) (by decide)
  change n.timeStep _ + ((n.onImu ⟨⟨2, 0⟩, 0, 0⟩).timeStep _ + (0 + 0)) = 1
  rw [hfirst, hsecond]
  norm_num

/-- Only with the decay is the bound of the estimate below the speed of the wheels. -/
theorem slip_of_fast_cruise :
    |(component.run defaultNode (speedUp ++ cruise)).imuVelX| ≤ 1.5 * Real.exp (-1 / 2) ∧
      ∃ slip health,
        (component.run defaultNode (speedUp ++ cruise)).timerTick.2 = some (slip, health) ∧
          slip.isSlipping = true ∧ health.status = SensorHealth.degraded := by
  have hspeedUp : ∀ e ∈ speedUp, |e.acceleration| ≤ 0.75 := by
    intro e he
    rcases List.mem_pair.1 he with rfl | rfl <;> norm_num [Event.acceleration, abs_of_pos]
  have hcruise : ∀ e ∈ cruise, e.acceleration = 0 := by
    simp [cruise, Event.acceleration]
  obtain ⟨hbound, hslip⟩ := slip_of_fast {} create_default speedUp cruise (by norm_num) hspeedUp
    hcruise
  have htau : defaultNode.params.imuVelDecayTimeS = 2 := by norm_num [defaultNode]
  have hgrown : (0.75 : ℝ) * 2 = 1.5 := by norm_num
  rw [integratedTime_cruise, htau, hgrown] at hbound hslip
  set n := component.run defaultNode (speedUp ++ cruise) with hn
  have hodom : n.latestOdom = some ⟨⟨2, 500000000⟩, 1.5, 0⟩ := rfl
  have himu : n.latestImu = some ⟨⟨2, 500000000⟩, 0, 0⟩ :=
    onImu_latestImu (component.run defaultNode (speedUp ++ cruise.take 1)) _
  have hage : ¬ n.params.maxImuAgeS <
      stdAbs (Stamp.seconds ⟨2, 500000000⟩ - Stamp.seconds ⟨2, 500000000⟩ : ℝ) := by
    rw [hn, run_params]
    norm_num [defaultNode, stdAbs]
  have htick : n.timerTick.2 = some (_, _) :=
    timerTick_eq_some_iff.2 ⟨_, _, hodom, himu, hage, rfl⟩
  have hfast : 1.5 * Real.exp (-1 / 2) + defaultNode.params.slipThresholdMps < |(1.5 : ℝ)| := by
    have hexp : Real.exp (-1 / 2) ≤ 2 / 3 := by
      have hgrowth : (3 : ℝ) / 2 ≤ Real.exp (1 / 2) := by
        linarith [Real.add_one_le_exp (1 / 2 : ℝ)]
      rw [neg_div, Real.exp_neg]
      exact inv_le_of_inv_le₀ (by norm_num) ((inv_div _ _).trans_le hgrowth)
    calc 1.5 * Real.exp (-1 / 2) + defaultNode.params.slipThresholdMps
        ≤ 1.5 * (2 / 3) + 0.1 := add_le_add_left (mul_le_mul_of_nonneg_left hexp (by norm_num)) _
      _ < |(1.5 : ℝ)| := by norm_num [abs_of_pos]
  exact ⟨hbound, _, _, htick, hslip _ _ _ hodom hfast htick⟩

end Reports

end SlipDetectorNode

end SafetyCore
