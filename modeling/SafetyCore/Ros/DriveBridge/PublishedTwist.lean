import SafetyCore.Arithmetic.Double.Unbounded
import SafetyCore.Motion.StopProfile.Doubles
import SafetyCore.Ros.DriveBridge

/-!
# Limits of the published twists

The clamps of `control_tick` bound every number that a command holds, but they let a NaN
pass. The samples of a stop profile are not clamped: they start at the measured speed,
whatever the limit is. `Clampable` and `StartsWithin` say of a command and of the start of
a safe stop that this does not matter.
-/

namespace SafetyCore

open Arithmetic Transition Double

namespace SafetyDriveBridgeNode

variable {K : Type*} [Field K] [LinearOrder K] {F : Format K}

/-! ## The conditions -/

/-- The command holds no NaN, and no infinity that no limit makes finite. -/
def Clampable (p : Params (Double F)) (n : SafetyDriveBridgeNode (Double F))
    (cmd : Twist (Double F)) : Prop :=
  (cmd.linearX ≠ .nan ∧
    (isFinite cmd.linearX = true ∨ isFinite p.maxLinearMps = true ∨
      isFinite n.recommendedSpeedLimitMps = true ∨ isFinite n.recoverySpeedLimitMps = true)) ∧
  cmd.angularZ ≠ .nan ∧
    (isFinite cmd.angularZ = true ∨ isFinite p.maxAngularRadps = true)

/-- The profile of a stop from the measured speed. -/
def profileOf (p : Params (Double F)) (n : SafetyDriveBridgeNode (Double F)) :
    StopProfile (Double F) :=
  Motion.generateJerkLimitedStopProfile (stdMax 0 n.measuredForwardSpeedMps) p.maxDecelMps2
    p.maxJerkMps3 p.controlPeriodS kStopProfileCapacity

/-- A stop for which a profile is generated starts within the limit. -/
def StartsWithin (p : Params (Double F)) (n : SafetyDriveBridgeNode (Double F)) : Prop :=
  (n.profileOf p).ok = true → ¬ p.maxLinearMps < n.measuredForwardSpeedMps

/-- The condition of a step: what a tick publishes of a command is `Clampable`, and a safe
stop `StartsWithin` the limit. -/
def Limitable (p : Params (Double F)) (n : SafetyDriveBridgeNode (Double F)) :
    Event (Double F) → Prop
  | .controlTick now =>
      n.faultLatched = false → n.safeStopActive = false → ∀ cmd ∈ n.latestNavCmd,
        TimeUtils.isStale n.latestNavCmdTimeNs now p.cmdFreshnessTimeoutNs = false →
          n.Clampable p cmd
  | .safeStop data => data = true → n.safeStopActive = false → n.StartsWithin p
  | _ => True

instance (p : Params (Double F)) (n : SafetyDriveBridgeNode (Double F))
    (cmd : Twist (Double F)) : Decidable (n.Clampable p cmd) :=
  inferInstanceAs (Decidable ((_ ∧ _) ∧ _ ∧ _))

instance (p : Params (Double F)) (n : SafetyDriveBridgeNode (Double F)) :
    Decidable (n.StartsWithin p) :=
  inferInstanceAs (Decidable (_ → ¬ _))

instance (p : Params (Double F)) (n : SafetyDriveBridgeNode (Double F)) :
    ∀ e, Decidable (Limitable p n e)
  | .controlTick _ => inferInstanceAs (Decidable (_ → _ → ∀ _ ∈ _, _ → _))
  | .safeStop _ => inferInstanceAs (Decidable (_ → _ → _))
  | .cmdVelNav _ _ | .envelope _ | .state _ | .odom _ | .recoverySpeedLimit _ =>
      inferInstanceAs (Decidable True)

/-! ## The invariant -/

/-- The twist is finite and within the limits of the parameters. -/
structure TwistWithin (p : Params (Double F)) (t : Twist (Double F)) : Prop where
  linear : FiniteWithin p.maxLinearMps t.linearX
  angular : FiniteWithin p.maxAngularRadps t.angularZ

/-- The limits from other nodes are not negative, and an active profile stays within the
limit of the parameters. -/
structure Limited (p : Params (Double F)) (n : SafetyDriveBridgeNode (Double F)) : Prop where
  recommended : 0 ≤ n.recommendedSpeedLimitMps
  recovery : 0 ≤ n.recoverySpeedLimitMps
  profile : n.stopProfileActive = true →
    ∀ s ∈ n.stopProfile, FiniteWithin p.maxLinearMps s.speedMps

/-- The parameters whose limits are numbers. -/
structure NumericLimits (p : Params (Double F)) : Prop where
  linear : p.maxLinearMps ≠ .nan
  angular : p.maxAngularRadps ≠ .nan

variable {p : Params (Double F)} {n : SafetyDriveBridgeNode (Double F)}

theorem NumericLimits.nonneg (h : NumericLimits p) :
    0 ≤ p.maxLinearMps ∧ 0 ≤ p.maxAngularRadps :=
  ⟨le_of_lt ((not_le h.linear zero_ne_nan).1 p.maxLinearMps_valid),
    le_of_lt ((not_le h.angular zero_ne_nan).1 p.maxAngularRadps_valid)⟩

/-- The limit in force for the linear speed. -/
def vLimit (p : Params (Double F)) (n : SafetyDriveBridgeNode (Double F)) : Double F :=
  stdMin (stdMin p.maxLinearMps n.recommendedSpeedLimitMps) n.recoverySpeedLimitMps

theorem vLimit_nonneg (hp : NumericLimits p) (h : Limited p n) : 0 ≤ n.vLimit p :=
  le_stdMin (le_stdMin hp.nonneg.1 h.recommended) h.recovery

theorem vLimit_le (hp : NumericLimits p) (h : Limited p n) :
    n.vLimit p ≤ p.maxLinearMps :=
  le_trans (stdMin_le_left (ne_nan_of_le (le_stdMin hp.nonneg.1 h.recommended)).2 _)
    (stdMin_le_left hp.linear _)

variable [IsStrictOrderedRing K]

theorem initial_limited (p : Params (Double F)) : Limited p initial :=
  have hnonneg : (0 : Double F) ≤ 1e9 := zero_le_ofExact (by norm_num)
  ⟨hnonneg, hnonneg, nofun⟩

/-! ## The command -/

theorem isFinite_vLimit_iff (hp : NumericLimits p) (h : Limited p n) :
    isFinite (n.vLimit p) = true ↔
      isFinite p.maxLinearMps = true ∨ isFinite n.recommendedSpeedLimitMps = true ∨
        isFinite n.recoverySpeedLimitMps = true := by
  rw [vLimit, isFinite_stdMin_iff (le_stdMin hp.nonneg.1 h.recommended) h.recovery,
    isFinite_stdMin_iff hp.nonneg.1 h.recommended, or_assoc]

/-- The clamped command is finite and within the limits exactly if it is `Clampable`. -/
theorem clampCommand_within_iff (hp : NumericLimits p) (h : Limited p n)
    (cmd : Twist (Double F)) :
    TwistWithin p (n.clampCommand p cmd n.recommendedSpeedLimitMps) ↔ n.Clampable p cmd := by
  have hlinear := stdClamp_finiteWithin_iff (v := cmd.linearX) (vLimit_nonneg hp h)
    (vLimit_le hp h)
  have hangular := stdClamp_finiteWithin_iff (v := cmd.angularZ) hp.nonneg.2
    (le_refl hp.angular)
  rw [isFinite_vLimit_iff hp h] at hlinear
  rw [Clampable, ← hlinear, ← hangular]
  exact ⟨fun ht => ⟨ht.linear, ht.angular⟩, fun ht => ⟨ht.1, ht.2⟩⟩

/-! ## The stop profile -/

/-- The speed that the profile of a stop starts at bounds its samples. -/
theorem profileOf_within (hp : NumericLimits p) (hstart : n.StartsWithin p)
    (hok : (n.profileOf p).ok = true) :
    ∀ s ∈ (n.profileOf p).points, FiniteWithin p.maxLinearMps s.speedMps := by
  obtain ⟨hspeed, hmem⟩ := Motion.generateJerkLimitedStopProfile_mem hok
  have hmax := hp.nonneg.1
  have hmeasured : stdMax 0 n.measuredForwardSpeedMps ≤ p.maxLinearMps := by
    by_cases hnan : n.measuredForwardSpeedMps = .nan
    · rw [hnan, stdMax_nan_right]
      exact hmax
    · exact stdMax_le hmax ((not_lt hp.linear hnan).1 (hstart hok))
  intro s hs
  obtain ⟨hlo, hhi⟩ := hmem s hs
  have hfinite := isFinite_stdMax isFinite_zero hspeed
  exact ⟨isFinite_of_le_of_le isFinite_zero hfinite hlo hhi,
    stdAbs_le (le_trans (neg_le_zero hmax) hlo) (le_trans hhi (stdMax_le hmax hmeasured))⟩

/-- The first sample of a stop is within the limits exactly if the stop `StartsWithin`
the limit. -/
theorem startJerkLimitedStop_within_iff (hp : NumericLimits p) :
    (∀ r, (n.startJerkLimitedStop p).executeStopProfile = some r → TwistWithin p r.2) ↔
      n.StartsWithin p := by
  constructor
  · intro hfirst hok hexceeds
    have hpos : 0 < n.measuredForwardSpeedMps := Double.lt_of_le_of_lt hp.nonneg.1 hexceeds
    have hmax : stdMax 0 n.measuredForwardSpeedMps = n.measuredForwardSpeedMps :=
      if_pos hpos
    rw [← hmax] at hpos
    obtain ⟨sample, hsample, hspeed⟩ := Motion.generateJerkLimitedStopProfile_head hpos hok
    have hactive : (n.startJerkLimitedStop p).stopProfileActive = true :=
      Bool.and_eq_true_iff.2 ⟨hok, decide_eq_true (List.length_pos_of_mem
        (List.mem_of_getElem? hsample))⟩
    have hpublished : (n.startJerkLimitedStop p).executeStopProfile = some
        ({ n.startJerkLimitedStop p with
            lastPublishedLinear := sample.speedMps
            stopProfileIndex := 1 },
          ⟨sample.speedMps, 0⟩) := by
      exact executeStopProfile_eq_some_iff.2 ⟨hactive, sample, hsample, rfl⟩
    have hwithin := (hfirst _ hpublished).linear.2
    rw [hspeed, hmax, stdAbs_of_nonneg (hmax ▸ le_of_lt hpos)] at hwithin
    exact (not_lt hp.linear (ne_nan_of_le hwithin).1).2 hwithin hexceeds
  · intro hstart r hr
    obtain ⟨hactive, sample, hsample, rfl⟩ := executeStopProfile_eq_some_iff.1 hr
    have hwithin := profileOf_within hp hstart (Bool.and_eq_true_iff.1 hactive).1 sample
      (List.mem_of_getElem? hsample)
    exact ⟨hwithin, finiteWithin_zero hp.nonneg.2⟩

/-! ## A step -/

theorem publishZeroTwist_within (hp : NumericLimits p) :
    TwistWithin p n.publishZeroTwist.2 :=
  ⟨finiteWithin_zero hp.nonneg.1, finiteWithin_zero hp.nonneg.2⟩

theorem executeStopProfile_within (hp : NumericLimits p) (h : Limited p n)
    {r : SafetyDriveBridgeNode (Double F) × Twist (Double F)}
    (hr : n.executeStopProfile = some r) : Limited p r.1 ∧ TwistWithin p r.2 := by
  obtain ⟨hactive, sample, hsample, rfl⟩ := executeStopProfile_eq_some_iff.1 hr
  have hwithin := h.profile hactive sample (List.mem_of_getElem? hsample)
  exact ⟨⟨h.recommended, h.recovery, h.profile⟩, hwithin, finiteWithin_zero hp.nonneg.2⟩

theorem controlTick_within (hp : NumericLimits p) (h : Limited p n) (now : UInt64)
    (hlimitable : Limitable p n (.controlTick now)) :
    Limited p (n.controlTick p now).1 ∧ TwistWithin p (n.controlTick p now).2 := by
  rcases n.controlTick_branches p now with
    hzero | ⟨hfault, ⟨-, hsample⟩ | ⟨hstop, cmd, hcmd, hfresh, hpublished⟩⟩
  · rw [hzero]
    exact ⟨⟨h.recommended, h.recovery, h.profile⟩, publishZeroTwist_within hp⟩
  · exact executeStopProfile_within hp h hsample
  · have hclampable := hlimitable hfault hstop cmd hcmd hfresh
    rw [hpublished]
    exact ⟨⟨h.recommended, h.recovery, h.profile⟩,
      (clampCommand_within_iff hp h cmd).2 hclampable⟩

/-- The callbacks keep the invariant. -/
theorem limited_next (hp : NumericLimits p) (h : Limited p n) (e : Event (Double F))
    (hlimitable : Limitable p n e) : Limited p ((component p).next n e) := by
  cases e with
  | cmdVelNav msg now => exact ⟨h.recommended, h.recovery, h.profile⟩
  | envelope msg =>
      simp only [component, onEnvelope]
      split
      · exact ⟨hp.nonneg.1, h.recovery, h.profile⟩
      · exact ⟨zero_le_stdMax _, h.recovery, h.profile⟩
  | safeStop data =>
      cases data with
      | false => exact ⟨h.recommended, h.recovery, nofun⟩
      | true =>
          simp only [component, onSafeStop, startJerkLimitedStop, Bool.true_and,
            Bool.not_true, Bool.false_eq_true, if_false]
          split
          next hprev =>
            rw [Bool.not_eq_true'] at hprev
            refine ⟨h.recommended, h.recovery, fun hactive => ?_⟩
            exact profileOf_within hp (hlimitable rfl hprev) (Bool.and_eq_true_iff.1 hactive).1
          next => exact ⟨h.recommended, h.recovery, h.profile⟩
  | state faultLatched => exact ⟨h.recommended, h.recovery, h.profile⟩
  | odom linearX => exact ⟨h.recommended, h.recovery, h.profile⟩
  | recoverySpeedLimit data => exact ⟨h.recommended, zero_le_stdMax data, h.profile⟩
  | controlTick now => exact (controlTick_within hp h now hlimitable).1

/-- In every run in which every command that a tick publishes is clampable and every safe
stop starts within the limit, every published twist is finite and within the limits. -/
theorem run_twists_within (p : Params (Double F)) (hlinear : p.maxLinearMps ≠ .nan)
    (hangular : p.maxAngularRadps ≠ .nan) (es : List (Event (Double F)))
    (hes : (component p).Along (Limitable p) initial es) :
    ∀ t, some t ∈ (component p).outputs initial es →
      (isFinite t.linearX = true ∧ stdAbs t.linearX ≤ p.maxLinearMps) ∧
      isFinite t.angularZ = true ∧ stdAbs t.angularZ ≤ p.maxAngularRadps := by
  have hp : NumericLimits p := ⟨hlinear, hangular⟩
  have hkeeps : ∀ n e, Limitable p n e → Limited p n → Limited p ((component p).next n e) :=
    fun _ e hlimitable h => limited_next hp h e hlimitable
  have hwithin : ∀ n e, Limitable p n e → Limited p n →
      ∀ t, (component p).output n e = some t → TwistWithin p t := by
    intro n e hlimitable h t ht
    cases e with
    | controlTick now =>
        cases ht
        exact (controlTick_within hp h now hlimitable).2
    | cmdVelNav msg now => cases ht
    | envelope msg => cases ht
    | safeStop data => cases ht
    | state faultLatched => cases ht
    | odom linearX => cases ht
    | recoverySpeedLimit data => cases ht
  intro t ht
  have htwist := Component.Along.outputs hkeeps hwithin (initial_limited p) hes t ht
  exact ⟨htwist.linear, htwist.angular⟩

/-- The default parameters in doubles. -/
def Params.exactDefault : Params (ExactDouble ℚ) where
  maxLinearMps := 1.5
  maxAngularRadps := 1.5
  maxDecelMps2 := 1.0
  maxJerkMps3 := 2.0
  controlPeriodS := 0.05
  cmdFreshnessTimeoutNs := 250000000
  maxLinearMps_valid := by decide +kernel
  maxAngularRadps_valid := by decide +kernel
  maxDecelMps2_valid := by decide +kernel
  maxJerkMps3_valid := by decide +kernel
  controlPeriodS_valid := by decide +kernel

/-- The first sample of a stop from 1 m/s, after an infinite command. -/
theorem run_twists_within_stop :
    (isFinite (1.0 : ExactDouble ℚ) = true ∧
      stdAbs 1.0 ≤ Params.exactDefault.maxLinearMps) ∧
    isFinite (0 : ExactDouble ℚ) = true ∧
      stdAbs 0 ≤ Params.exactDefault.maxAngularRadps :=
  run_twists_within Params.exactDefault (by decide +kernel) (by decide +kernel)
    [.odom 1.0, .cmdVelNav ⟨infinity false, 0⟩ 0, .controlTick 1, .safeStop true,
      .controlTick 2]
    (by decide +kernel) ⟨1.0, 0⟩ (by decide +kernel)

/-- A command that is not a number is published as it is. -/
theorem twists_not_always_within :
    ¬ ∀ (p : Params (ExactDouble ℚ)) (es : List (Event (ExactDouble ℚ))),
      isFinite p.maxLinearMps = true → isFinite p.maxAngularRadps = true →
      ∀ t, some t ∈ (component p).outputs initial es →
        (isFinite t.linearX = true ∧ stdAbs t.linearX ≤ p.maxLinearMps) ∧
        isFinite t.angularZ = true ∧ stdAbs t.angularZ ≤ p.maxAngularRadps := by
  intro h
  have ht := h Params.exactDefault [.cmdVelNav ⟨.nan, 0⟩ 0, .controlTick 1]
    (by decide +kernel) (by decide +kernel) ⟨.nan, 0⟩ (by decide +kernel)
  cases ht.1.1

end SafetyDriveBridgeNode

end SafetyCore
