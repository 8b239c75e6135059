import SafetyCore.Control.SafetyPid.RejectedConfig

/-!
# Runs that notice a rejected configuration

If the controller and the one that a rejected configuration leaves are indistinguishable,
then they answer the same to every probe: a few calls that set the gains so that one term
of the sum remains, mark the localization and compute. The probes bring out the limits
and all that a reset would have cleared, and the condition of `Unaffected` is necessary.
-/

namespace SafetyCore

open Arithmetic Transition

namespace SafetyPidController

section Probes

variable {K : Type*} [Field K] [LinearOrder K] {c t : SafetyPidController K}

/-- Whatever the gains, the limits let through the same. -/
theorem limited_eq (h : service.Indistinguishable c t) (gains : PidGains K) (now : ℤ)
    (x : K) :
    c.clampAccel (c.clampSpeed ((c.setGains gains).pidSum x (c.stepDt now)))
        (c.stepDt now) =
      t.clampAccel (t.clampSpeed ((t.setGains gains).pidSum x (t.stepDt now)))
        (t.stepDt now) := by
  obtain ⟨stamp, hc, ht⟩ : ∃ stamp : ℤ, now + |c.guardTimeout.getD 0| ≤ stamp ∧
      now + |t.guardTimeout.getD 0| ≤ stamp := ⟨_, le_max_left _ _, le_max_right _ _⟩
  have hprobe := ((h.next (.call (.plain (.setGains gains)))).next
    (.call (.plain (.markLocalizationUpdate stamp)))).output
      (.call (.plain (.compute now now x 0)))
  have hvalue := Option.some.inj (Sum.inr.inj hprobe)
  have hc : ((c.setGains gains).markLocalizationUpdate stamp).localizationValid now = true :=
    localizationValid_mark hc
  have ht : ((t.setGains gains).markLocalizationUpdate stamp).localizationValid now = true :=
    localizationValid_mark ht
  have hcompute := (compute_value hc now x 0).symm.trans (hvalue.trans (compute_value ht now x 0))
  rwa [sub_zero] at hcompute

/-- The gains under which the sum of the terms is the error. -/
def proportional : PidGains K where
  kp := 1
  ki := 0
  kd := 0

theorem pidSum_of_proportional (h : c.gains = proportional) (error dt : K) :
    c.pidSum error dt = error := by
  simp [pidSum, h, proportional]

theorem limited_proportional (h : service.Indistinguishable c t) (now : ℤ) (x : K) :
    c.clampAccel (c.clampSpeed x) (c.stepDt now) =
      t.clampAccel (t.clampSpeed x) (t.stepDt now) := by
  have heq := limited_eq h proportional now x
  rwa [pidSum_of_proportional rfl, pidSum_of_proportional rfl] at heq

theorem indistinguishable_reset (h : service.Indistinguishable c t) (now : ℤ) :
    service.Indistinguishable (c.reset now) (t.reset now) :=
  h.next (.call (.plain (.reset now)))

/-- After a reset the first call steps from zero. -/
theorem limited_reset (h : service.Indistinguishable c t) (x : K) :
    (c.reset 0).clampAccel (c.clampSpeed x) c.configuredDt =
      (t.reset 0).clampAccel (t.clampSpeed x) t.configuredDt := by
  have heq := limited_proportional (indistinguishable_reset h 0) 0 x
  rwa [stepDt_of_first rfl, stepDt_of_first rfl] at heq

/-- The controller after a reset, ready for a proportional call. -/
def probe (c : SafetyPidController K) (stamp : ℤ) : SafetyPidController K :=
  ((c.setGains proportional).reset 0).markLocalizationUpdate stamp

theorem indistinguishable_probe (h : service.Indistinguishable c t) (stamp : ℤ) :
    service.Indistinguishable (c.probe stamp) (t.probe stamp) :=
  ((h.next (.call (.plain (.setGains proportional)))).next
    (.call (.plain (.reset 0)))).next (.call (.plain (.markLocalizationUpdate stamp)))

/-- A feedforward from a reset. -/
def feedforwardProbe (c : SafetyPidController K) (stamp : ℤ) (x y : K) :
    SafetyPidController K × K :=
  (c.probe stamp).computeFeedforward 0 0 0 0 x y

theorem indistinguishable_feedforwardProbe (h : service.Indistinguishable c t)
    (stamp : ℤ) (x y : K) :
    (c.feedforwardProbe stamp x y).2 = (t.feedforwardProbe stamp x y).2 ∧
      service.Indistinguishable (c.feedforwardProbe stamp x y).1
        (t.feedforwardProbe stamp x y).1 := by
  have hprobe := indistinguishable_probe h stamp
  exact ⟨Option.some.inj (Sum.inr.inj (hprobe.output (.call (.computeFeedforward 0 0 0 0 x y)))),
    hprobe.next (.call (.computeFeedforward 0 0 0 0 x y))⟩

variable [IsStrictOrderedRing K]

/-! ## Values that are not zero -/

theorem clampSpeed_zero (c : SafetyPidController K) : c.clampSpeed 0 = 0 := by
  cases hm : c.speedLimit with
  | none => exact clampSpeed_of_none hm 0
  | some m =>
      have hm0 := speedLimit_pos hm
      rw [clampSpeed_of_limit hm, min_eq_left hm0.le, max_eq_right (by linarith)]

theorem clampSpeed_pos (c : SafetyPidController K) {x : K} (hx : 0 < x) :
    0 < c.clampSpeed x := by
  cases hm : c.speedLimit with
  | none => rwa [clampSpeed_of_none hm]
  | some m =>
      rw [clampSpeed_of_limit hm]
      exact lt_max_of_lt_right (lt_min hx (speedLimit_pos hm))

theorem clampSpeed_neg (c : SafetyPidController K) {x : K} (hx : x < 0) :
    c.clampSpeed x < 0 := by
  cases hm : c.speedLimit with
  | none => rwa [clampSpeed_of_none hm]
  | some m =>
      have hm0 := speedLimit_pos hm
      rw [clampSpeed_of_limit hm]
      exact max_lt (by linarith) (min_lt_of_left_lt hx)

/-- From an output of zero a step to zero arrives. -/
theorem clampAccel_zero (hlast : c.lastOutput = 0) {dt : K} (hdt : 0 < dt) :
    c.clampAccel 0 dt = 0 := by
  cases ha : c.accelLimit with
  | none => exact clampAccel_of_none ha 0 dt
  | some a =>
      have hδ := mul_pos (accelLimit_pos ha) hdt
      rw [clampAccel_of_limit ha hdt, hlast, min_eq_left (by linarith),
        max_eq_right (by linarith), clampSpeed_zero]

/-- A step away from zero moves. -/
theorem clampAccel_ne_zero {x dt : K} (hx : x ≠ 0) (hlast : 0 ≤ x * c.lastOutput)
    (hdt : 0 < dt) : c.clampAccel (c.clampSpeed x) dt ≠ 0 := by
  rcases hx.lt_or_gt with hneg | hpos
  · have hlast : c.lastOutput ≤ 0 := nonpos_of_mul_nonneg_right hlast hneg
    have hspeed := c.clampSpeed_neg hneg
    cases ha : c.accelLimit with
    | none => exact (clampAccel_of_none ha _ dt).trans_ne hspeed.ne
    | some a =>
        have hδ := mul_pos (accelLimit_pos ha) hdt
        rw [clampAccel_of_limit ha hdt]
        exact (c.clampSpeed_neg (max_lt (by linarith) (min_lt_of_left_lt hspeed))).ne
  · have hlast : 0 ≤ c.lastOutput := nonneg_of_mul_nonneg_right hlast hpos
    have hspeed := c.clampSpeed_pos hpos
    cases ha : c.accelLimit with
    | none => exact (clampAccel_of_none ha _ dt).trans_ne hspeed.ne'
    | some a =>
        have hδ := mul_pos (accelLimit_pos ha) hdt
        rw [clampAccel_of_limit ha hdt]
        exact (c.clampSpeed_pos (lt_max_of_lt_right (lt_min hspeed (by linarith)))).ne'

/-! ## What the probes bring out -/

/-- The probe puts out its feedforward, and counts as the first call. -/
theorem feedforwardProbe_spec {stamp : ℤ} (hstamp : 0 + |c.guardTimeout.getD 0| ≤ stamp)
    (x y : K) :
    (c.feedforwardProbe stamp x y).2 = c.clampSpeed (x + y * c.configuredDt) ∧
      (c.feedforwardProbe stamp x y).1.config = c.config ∧
      (c.feedforwardProbe stamp x y).1.firstUpdate = false ∧
      (c.feedforwardProbe stamp x y).1.lastUpdate = 0 := by
  unfold feedforwardProbe
  have hvalid : (c.probe stamp).localizationValid 0 = true := localizationValid_mark hstamp
  have hconfig : (c.probe stamp).config = c.config := rfl
  have hgains : (c.probe stamp).gains = proportional := rfl
  have hlast : (c.probe stamp).lastOutput = 0 := rfl
  generalize c.probe stamp = p at *
  have hvalue : (p.compute 0 0 0 0).2 = 0 := by
    rw [compute_value hvalid, pidSum_of_proportional hgains, sub_zero, clampSpeed_zero,
      clampAccel_zero hlast (p.stepDt_pos 0)]
  rw [computeFeedforward_eq]
  dsimp only
  rw [hvalue, compute_of_valid p 0 0 0 hvalid]
  refine ⟨?_, hconfig, rfl, rfl⟩
  rw [zero_add, clampSpeed, clampSpeed, configuredDt, configuredDt, hconfig]

theorem clampSpeed_eq (h : service.Indistinguishable c t) (x y : K) :
    c.clampSpeed (x + y * c.configuredDt) = t.clampSpeed (x + y * t.configuredDt) := by
  obtain ⟨stamp, hc, ht⟩ : ∃ stamp : ℤ, 0 + |c.guardTimeout.getD 0| ≤ stamp ∧
      0 + |t.guardTimeout.getD 0| ≤ stamp := ⟨_, le_max_left _ _, le_max_right _ _⟩
  rw [← (feedforwardProbe_spec hc x y).1, ← (feedforwardProbe_spec ht x y).1]
  exact (indistinguishable_feedforwardProbe h stamp x y).1

/-- A feedforward above the limit brings out the limit. -/
theorem speedLimit_eq (h : service.Indistinguishable c t) :
    t.speedLimit = c.speedLimit := by
  have hclamp (x : K) : c.clampSpeed x = t.clampSpeed x := by
    simpa using clampSpeed_eq h x 0
  have hcap {d : SafetyPidController K} {m x : K} (hm : d.speedLimit = some m)
      (hx : m ≤ x) : d.clampSpeed x = m := by
    have hm0 := speedLimit_pos hm
    rw [clampSpeed_of_limit hm, min_eq_right hx, max_eq_right (by linarith)]
  cases hc : c.speedLimit with
  | none =>
      cases ht : t.speedLimit with
      | none => rfl
      | some m =>
          have hx := hclamp (m + 1)
          rw [clampSpeed_of_none hc, hcap ht (by linarith)] at hx
          linarith
  | some m =>
      cases ht : t.speedLimit with
      | none =>
          have hx := hclamp (m + 1)
          rw [clampSpeed_of_none ht, hcap hc (by linarith)] at hx
          linarith
      | some n =>
          have hx := hclamp (max m n)
          rw [hcap hc (le_max_left _ _), hcap ht (le_max_right _ _)] at hx
          rw [hx]

/-- A feedforward acceleration whose effect is below the limit brings out the control
period. -/
theorem configuredDt_eq (h : service.Indistinguishable c t) :
    t.configuredDt = c.configuredDt := by
  have hc := c.configuredDt_pos
  have ht := t.configuredDt_pos
  cases hm : c.speedLimit with
  | none =>
      have hx := clampSpeed_eq h 0 1
      rw [clampSpeed_of_none hm, clampSpeed_of_none ((speedLimit_eq h).trans hm)] at hx
      linarith
  | some m =>
      have hm0 := speedLimit_pos hm
      have hsum : 0 < c.configuredDt + t.configuredDt := by linarith
      have hy : 0 < m / (c.configuredDt + t.configuredDt) := div_pos hm0 hsum
      have hy' : m / (c.configuredDt + t.configuredDt) *
          (c.configuredDt + t.configuredDt) = m := div_mul_cancel₀ m hsum.ne'
      have hx := clampSpeed_eq h 0 (m / (c.configuredDt + t.configuredDt))
      generalize m / (c.configuredDt + t.configuredDt) = y at hy hy' hx
      have hyc := mul_pos hy hc
      have hyt := mul_pos hy ht
      rw [mul_add] at hy'
      rw [clampSpeed_of_limit hm, clampSpeed_of_limit ((speedLimit_eq h).trans hm), zero_add,
        zero_add, min_eq_left (by linarith), min_eq_left (by linarith),
        max_eq_right (by linarith), max_eq_right (by linarith)] at hx
      exact (mul_left_cancel₀ hy.ne' hx).symm

/-- A proportional call from zero moves if and only if the localization is valid. -/
theorem compute_one_eq_zero_iff (hgains : c.gains = proportional)
    (hlast : c.lastOutput = 0) (now nowReset : ℤ) :
    (c.compute now nowReset 1 0).2 = 0 ↔ c.localizationValid now = false := by
  cases hvalid : c.localizationValid now with
  | false =>
      rw [compute_of_stale nowReset 1 0 hvalid]
      exact iff_of_true rfl rfl
  | true =>
      rw [compute_value hvalid, pidSum_of_proportional hgains, sub_zero]
      have hne := clampAccel_ne_zero (c := c) one_ne_zero
        (by rw [hlast, mul_zero]) (c.stepDt_pos now)
      exact iff_of_false hne nofun

/-- A localization of some age is fresh for both or for neither. -/
theorem guardTimeout_eq (h : service.Indistinguishable c t) :
    t.guardTimeout = c.guardTimeout := by
  have hvalid (now : ℤ) : (c.guardTimeout.all fun timeout => now ≤ timeout) =
      t.guardTimeout.all fun timeout => now ≤ timeout := by
    have hvalue := Option.some.inj (Sum.inr.inj
      ((indistinguishable_probe h 0).output (.call (.plain (.compute now 0 1 0)))))
    have hiff := (compute_one_eq_zero_iff rfl rfl now 0).symm.trans
      ((Eq.congr_left hvalue).trans (compute_one_eq_zero_iff rfl rfl now 0))
    have hguard (d : SafetyPidController K) : (d.probe 0).localizationValid now =
        d.guardTimeout.all fun timeout => now - 0 ≤ timeout := localizationValid_eq _ now
    rw [hguard, hguard] at hiff
    simp only [sub_zero, ← Bool.not_eq_true, not_iff_not] at hiff
    exact Bool.eq_iff_iff.2 hiff
  cases hc : c.guardTimeout with
  | none =>
      cases ht : t.guardTimeout with
      | none => rfl
      | some timeout =>
          have hnow := hvalid (timeout + 1)
          rw [hc, ht] at hnow
          simp at hnow
  | some timeout =>
      cases ht : t.guardTimeout with
      | none =>
          have hnow := hvalid (timeout + 1)
          rw [hc, ht] at hnow
          simp at hnow
      | some timeout' =>
          have hle := hvalid timeout
          have hge := hvalid timeout'
          rw [hc, ht] at hle hge
          simp only [Option.all_some, le_refl, decide_true, true_eq_decide_iff,
            decide_eq_true_eq] at hle hge
          rw [le_antisymm hge hle]

/-! ### What a reset clears -/

theorem exists_away (c : SafetyPidController K) : ∃ x : K, x ≠ 0 ∧ 0 ≤ x * c.lastOutput := by
  by_cases h : c.lastOutput = 0
  · exact ⟨1, one_ne_zero, by rw [h, mul_zero]⟩
  · exact ⟨c.lastOutput, h, mul_self_nonneg _⟩

/-- The derivative counts from the second call on. -/
theorem firstUpdate_eq_true (h : service.Indistinguishable c t)
    (hfirst : t.firstUpdate = true) (hlast : t.lastOutput = 0) : c.firstUpdate = true := by
  by_contra hlater
  rw [Bool.not_eq_true] at hlater
  obtain ⟨x, hx, haway⟩ := exists_away c
  have hdt := c.stepDt_pos 0
  have hvalue := limited_eq h { kp := 0, ki := 0, kd := 1 } 0 (c.prevError + x * c.stepDt 0)
  have hc : (c.setGains { kp := 0, ki := 0, kd := 1 }).pidSum
      (c.prevError + x * c.stepDt 0) (c.stepDt 0) = x := by
    simp [pidSum, derivative, setGains, hlater, hdt, hdt.ne']
  have ht : (t.setGains { kp := 0, ki := 0, kd := 1 }).pidSum
      (c.prevError + x * c.stepDt 0) (t.stepDt 0) = 0 := by
    simp [pidSum, derivative, setGains, hfirst]
  rw [hc, ht, clampSpeed_zero, clampAccel_zero hlast (t.stepDt_pos 0)] at hvalue
  exact clampAccel_ne_zero hx haway hdt hvalue

theorem integral_eq_zero (h : service.Indistinguishable c t) (hintegral : t.integral = 0)
    (hlast : t.lastOutput = 0) : c.integral = 0 := by
  by_contra hne
  obtain ⟨x, hx, haway⟩ := exists_away c
  have hvalue := limited_eq h
    { kp := 0, ki := x / c.integral, kd := 0, maxIntegral := 0 } 0 0
  have hc : (c.setGains { kp := 0, ki := x / c.integral, kd := 0, maxIntegral := 0 }).pidSum
      0 (c.stepDt 0) = x := by
    simp [pidSum, accumulated, setGains, hne]
  have ht : (t.setGains { kp := 0, ki := x / c.integral, kd := 0, maxIntegral := 0 }).pidSum
      0 (t.stepDt 0) = 0 := by
    simp [pidSum, accumulated, setGains, hintegral]
  rw [hc, ht, clampSpeed_zero, clampAccel_zero hlast (t.stepDt_pos 0)] at hvalue
  exact clampAccel_ne_zero hx haway (c.stepDt_pos 0) hvalue

/-! ### The limit of the acceleration -/

/-- Without a limit of the speed a large step is cut to the limit of the acceleration. -/
theorem clampAccel_of_large {a dt x : K} (hm : c.speedLimit = none)
    (ha : c.accelLimit = some a) (hdt : 0 < dt) (hx : c.lastOutput + a * dt ≤ x) :
    c.clampAccel x dt = c.lastOutput + a * dt := by
  have hδ := mul_pos (accelLimit_pos ha) hdt
  rw [clampAccel_of_limit ha hdt, clampSpeed_of_none hm, min_eq_right hx,
    max_eq_right (by linarith)]

theorem clampAccel_reset_of_large {a dt x : K} (hm : c.speedLimit = none)
    (ha : c.accelLimit = some a) (hdt : 0 < dt) (hx : a * dt ≤ x) :
    (c.reset 0).clampAccel x dt = a * dt :=
  (clampAccel_of_large (c := c.reset 0) hm ha hdt ((zero_add _).trans_le hx)).trans
    (zero_add _)

/-- Where both ends of the range of the speed can be reached, the step is long enough. -/
theorem add_abs_le_of_clampAccel {m a dt : K} (hm : c.speedLimit = some m)
    (ha : c.accelLimit = some a) (hdt : 0 < dt) (hhi : c.clampAccel m dt = m)
    (hlo : c.clampAccel (-m) dt = -m) : m + |c.lastOutput| ≤ a * dt := by
  have hm0 := speedLimit_pos hm
  have hδ := mul_pos (accelLimit_pos ha) hdt
  rw [clampAccel_of_limit ha hdt, clampSpeed_of_limit hm] at hhi hlo
  have hup : m ≤ c.lastOutput + a * dt := by
    by_contra hlt
    have hstep : max (c.lastOutput - a * dt) (min m (c.lastOutput + a * dt)) < m :=
      max_lt (by linarith) (min_lt_of_right_lt (not_le.1 hlt))
    exact (max_lt (by linarith) (min_lt_of_left_lt hstep)).ne hhi
  have hdown : c.lastOutput - a * dt ≤ -m := by
    by_contra hlt
    have hstep : -m < max (c.lastOutput - a * dt) (min (-m) (c.lastOutput + a * dt)) :=
      lt_max_of_lt_left (not_le.1 hlt)
    exact (lt_max_of_lt_right (lt_min hstep (by linarith))).ne' hlo
  have habs : |c.lastOutput| ≤ a * dt - m := abs_le.2 ⟨by linarith, by linarith⟩
  linarith

/-- If only one of the controllers limits the acceleration, then both ends of the range of
the speed are within its reach. -/
theorem add_abs_le (h : service.Indistinguishable c t) {m a : K}
    (hm : c.speedLimit = some m) (ha : c.accelLimit = some a) (ht : t.accelLimit = none)
    (now : ℤ) : m + |c.lastOutput| ≤ a * c.stepDt now := by
  have hm0 := speedLimit_pos hm
  have hlimited (x : K) (hlo : -m ≤ x) (hhi : x ≤ m) :
      c.clampAccel x (c.stepDt now) = x := by
    have heq := limited_proportional h now x
    have hx : max (-m) (min x m) = x := by rw [min_eq_left hhi, max_eq_right hlo]
    rwa [clampAccel_of_none ht, clampSpeed_of_limit hm,
      clampSpeed_of_limit ((speedLimit_eq h).trans hm), hx] at heq
  exact add_abs_le_of_clampAccel hm ha (c.stepDt_pos now) (hlimited m (by linarith) le_rfl)
    (hlimited (-m) le_rfl (by linarith))

/-- So are they after an output at one end, at the shortest step. -/
theorem add_le_shortestDt (h : service.Indistinguishable c t) {m a : K}
    (hm : c.speedLimit = some m) (ha : c.accelLimit = some a) (ht : t.accelLimit = none) :
    m + m ≤ a * c.shortestDt := by
  have hm0 := speedLimit_pos hm
  obtain ⟨stamp, hc, ht'⟩ : ∃ stamp : ℤ, 0 + |c.guardTimeout.getD 0| ≤ stamp ∧
      0 + |t.guardTimeout.getD 0| ≤ stamp := ⟨_, le_max_left _ _, le_max_right _ _⟩
  obtain ⟨hvalue, hconfig, hfirst, hupdate⟩ := feedforwardProbe_spec hc m 0
  obtain ⟨-, htconfig, -, -⟩ := feedforwardProbe_spec ht' m 0
  have hind := (indistinguishable_feedforwardProbe h stamp m 0).2
  have hlast : (c.feedforwardProbe stamp m 0).1.lastOutput = m := by
    refine (computeFeedforward_lastOutput ..).trans (hvalue.trans ?_)
    rw [clampSpeed_of_limit hm, zero_mul, add_zero, min_self, max_eq_right (by linarith)]
  generalize (c.feedforwardProbe stamp m 0).1 = c' at *
  generalize (t.feedforwardProbe stamp m 0).1 = t' at *
  have hstep (now : ℤ) : m + m ≤ a * c'.stepDt now := by
    have hle := add_abs_le hind (m := m) (a := a) (by rw [← hm, speedLimit, speedLimit, hconfig])
      (by rw [← ha, accelLimit, accelLimit, hconfig])
      (by rw [← ht, accelLimit, accelLimit, htconfig]) now
    rwa [hlast, abs_of_pos hm0] at hle
  have hdt : c'.configuredDt = c.configuredDt := by rw [configuredDt, configuredDt, hconfig]
  -- A call at the same time counts the control period, one after 1001 ns counts these.
  have hperiod : c'.stepDt 0 = c.configuredDt := by
    rw [stepDt_of_later hfirst, hupdate, hdt]
    norm_num [seconds]
  have hshort : c'.stepDt 1001 = seconds 1001 := by
    rw [stepDt_of_later hfirst, hupdate, sub_zero]
    norm_num [seconds]
  have hnow := hstep 0
  have hlater := hstep 1001
  rw [hperiod] at hnow
  rw [hshort] at hlater
  rw [shortestDt, mul_min_of_nonneg _ _ (accelLimit_pos ha).le]
  exact le_min hnow hlater

/-- Without a speed limit, a step beyond the acceleration limit shows the limit. -/
theorem accelLimit_eq_of_clampAccel {a dt : K} (hm : c.speedLimit = none)
    (htm : t.speedLimit = none) (ha : c.accelLimit = some a) (hdt : 0 < dt)
    (h : ∀ x, (c.reset 0).clampAccel x dt = (t.reset 0).clampAccel x dt) :
    t.accelLimit = some a := by
  have hpos := mul_pos (accelLimit_pos ha) hdt
  cases hb : t.accelLimit with
  | none =>
      have hlarge := h (a * dt + 1)
      rw [clampAccel_reset_of_large hm ha hdt (by linarith),
        clampAccel_of_none (c := t.reset 0) hb] at hlarge
      linarith
  | some b =>
      have hpos' := mul_pos (accelLimit_pos hb) hdt
      have hlarge := h (a * dt + b * dt)
      rw [clampAccel_reset_of_large hm ha hdt (by linarith),
        clampAccel_reset_of_large htm hb hdt (by linarith)] at hlarge
      exact congrArg some (mul_right_cancel₀ hdt.ne' hlarge).symm

/-- Under one acceleration limit, steps as long as from zero start from zero. -/
theorem lastOutput_eq_zero (h : service.Indistinguishable c t)
    (hfirst : c.firstUpdate = true) (htfirst : t.firstUpdate = true)
    (hlast : t.lastOutput = 0) {a : K} (hm : c.speedLimit = none)
    (ha : c.accelLimit = some a) (hta : t.accelLimit = some a) : c.lastOutput = 0 := by
  have htm : t.speedLimit = none := (speedLimit_eq h).trans hm
  have hdt := c.configuredDt_pos
  have hpos := mul_pos (accelLimit_pos ha) hdt
  have hstep := limited_proportional h 0 (|c.lastOutput| + a * c.configuredDt)
  have hle := le_abs_self c.lastOutput
  have habs := abs_nonneg c.lastOutput
  rw [stepDt_of_first hfirst, stepDt_of_first htfirst, configuredDt_eq h,
    clampSpeed_of_none hm, clampSpeed_of_none htm, clampAccel_of_large hm ha hdt (by linarith),
    clampAccel_of_large htm hta hdt (by linarith), hlast] at hstep
  linarith

/-- The controllers limit the acceleration alike, or one limit cannot be noticed. -/
theorem accelLimit_cases (h : service.Indistinguishable c t)
    (hfirst : c.firstUpdate = true) (htfirst : t.firstUpdate = true)
    (hlast : t.lastOutput = 0) (hrejected : t.speedLimit = none ∨ t.accelLimit = none) :
    t.accelLimit = c.accelLimit ∧ (c.accelLimit = none ∨ c.lastOutput = 0) ∨
      t.accelLimit = none ∧
        ∃ m a, c.speedLimit = some m ∧ c.accelLimit = some a ∧
          m + |c.lastOutput| ≤ a * c.configuredDt ∧ m + m ≤ a * c.shortestDt := by
  have hdt := c.configuredDt_pos
  have hspeed := speedLimit_eq h
  cases hm : c.speedLimit with
  | none =>
      have htm : t.speedLimit = none := hspeed.trans hm
      have hlimited (x : K) : (c.reset 0).clampAccel x c.configuredDt =
          (t.reset 0).clampAccel x c.configuredDt := by
        have heq := limited_reset h x
        rwa [clampSpeed_of_none hm, clampSpeed_of_none htm, configuredDt_eq h] at heq
      cases ha : c.accelLimit with
      | none =>
          cases hta : t.accelLimit with
          | none => exact .inl ⟨rfl, .inl rfl⟩
          | some a =>
              have := accelLimit_eq_of_clampAccel htm hm hta hdt fun x => (hlimited x).symm
              rw [ha] at this
              cases this
      | some a =>
          have hta := accelLimit_eq_of_clampAccel hm htm ha hdt hlimited
          exact .inl ⟨hta, .inr (lastOutput_eq_zero h hfirst htfirst hlast hm ha hta)⟩
  | some m =>
      have hta : t.accelLimit = none := hrejected.resolve_left (by simp [hspeed, hm])
      cases ha : c.accelLimit with
      | none => exact .inl ⟨hta, .inl rfl⟩
      | some a =>
          have hstep := add_abs_le h hm ha hta 0
          rw [stepDt_of_first hfirst] at hstep
          exact .inr ⟨hta, m, a, rfl, rfl, hstep, add_le_shortestDt h hm ha hta⟩

/-- For every controller and every rejected configuration: the call of `applyConfig` has no
effect on any later run exactly if there is nothing to reset and the configuration acts
like the one before. -/
theorem noEffect_iff (c : SafetyPidController K) (cfg : SystemConfig K) (now : ℤ)
    (hrejected : (c.applyConfig cfg now).2 ≠ .ok) :
    NoEffect c cfg now ↔ Unaffected c cfg := by
  refine ⟨?_, fun h => h.noEffect now⟩
  rintro ⟨hind, -⟩
  rw [applyConfig_fst] at hind
  have hfirst := firstUpdate_eq_true hind rfl rfl
  have hintegral := integral_eq_zero hind rfl rfl
  have hspeed := speedLimit_eq hind
  have hguard := guardTimeout_eq hind
  have hperiod := configuredDt_eq hind
  have haccel := accelLimit_cases hind hfirst rfl rfl (limit_eq_none_of_rejected hrejected)
  exact ⟨hfirst, hintegral, hspeed, hguard, hperiod, haccel⟩

end Probes

/-- The configuration of the tests with a maximal speed of zero. -/
def zeroSpeedConfig : SystemConfig ℚ :=
  { makeConfig with envelope := { (makeConfig : SystemConfig ℚ).envelope with maxSpeedMps := 0 } }

theorem noEffect_iff_unconfigured :
    NoEffect (create 0 0) zeroSpeedConfig 0 ↔ Unaffected (create 0 0) zeroSpeedConfig :=
  noEffect_iff (create 0 0) zeroSpeedConfig 0 (by decide +kernel)

/-- The controller is limited to 1.5 m/s and returns 5 m/s after a maximal speed of zero has
been rejected. -/
theorem rejected_not_always_without_effect :
    ¬ ∀ (c : SafetyPidController ℚ) (cfg : SystemConfig ℚ) (now : ℤ),
      (c.applyConfig cfg now).2 ≠ .ok → NoEffect c cfg now := by
  intro h
  have heffect := h ((create 0 0).applyConfig makeConfig 0).1 zeroSpeedConfig 0
    (by decide +kernel)
  have hbound := heffect.2 1.5 (by decide +kernel)
    [.computeFeedforward 0 0 0 0 5 0] 5 (by decide +kernel)
  exact absurd hbound (by decide +kernel)

end SafetyPidController

end SafetyCore
