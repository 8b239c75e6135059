import Mathlib.Tactic.FieldSimp
import Mathlib.Tactic.Linarith
import Mathlib.Tactic.Ring
import SafetyCore.Motion.StopProfile

/-!
# The distance of a stop profile

A stop at the full deceleration takes the braking distance `v ^ 2 / (2 * maxDecel)`.
The profile takes longer for three reasons: the deceleration is ramped up first, it is
reduced again in every other step near the end of the stop, and the last step may
start from any speed below `maxDecel * dt`. `stopExcess` bounds what these add. The
proof carries a bound of the remaining distance, `stopBound`, through the loop.
-/

namespace SafetyCore

open Arithmetic

/-- The last point of the profile is at most `limit` away. -/
def StopProfile.EndsWithin {α : Type*} [LE α] (profile : StopProfile α) (limit : α) : Prop :=
  ∃ p, profile.points.getLast? = some p ∧ p.distanceM ≤ limit

theorem StopProfile.EndsWithin.mono {α : Type*} [Preorder α] {profile : StopProfile α}
    {limit limit' : α} (h : profile.EndsWithin limit) (hle : limit ≤ limit') :
    profile.EndsWithin limit' := by
  obtain ⟨p, hlast, hp⟩ := h
  exact ⟨p, hlast, hp.trans hle⟩

namespace Motion

section Definitions

variable {K : Type*} [Field K] [LinearOrder K] (maxDecel maxJerk dt : K)

/-- The share of the deceleration that one step of the ramp changes. -/
def rampShare : K := min (maxJerk * dt / maxDecel) 1

/-- The speed from which on the loop ramps the deceleration down, at most `v`. -/
def tailSpeed (v : K) : K := if 1e-9 < maxDecel then min v (maxDecel * maxDecel / maxJerk) else v

/-- What ramping down adds to the braking distance from the speed `v`. -/
def tailExcess (v : K) : K :=
  rampShare maxDecel maxJerk dt *
    (tailSpeed maxDecel maxJerk v ^ 2 * 0.5 / maxDecel + tailSpeed maxDecel maxJerk v * dt)

/-- What the last step adds to the braking distance. -/
def lastStepExcess (v : K) : K := min v (maxDecel * dt) * dt * 0.5

/-- What ramping up from the acceleration `a` adds to the braking distance. -/
def rampExcess (v a : K) : K := v * (maxDecel + a) ^ 2 * 0.5 / (maxJerk * maxDecel)

/-- What a stop from the speed `v` adds to its braking distance, at most. -/
def stopExcess (v : K) : K :=
  v * maxDecel * 0.5 / maxJerk + tailExcess maxDecel maxJerk dt v +
    lastStepExcess maxDecel dt v

/-- The distance left from the speed `v` and the acceleration `a`, at most. -/
def stopBound (v a : K) : K :=
  v ^ 2 * 0.5 / maxDecel + rampExcess maxDecel maxJerk v a +
    (tailExcess maxDecel maxJerk dt v + lastStepExcess maxDecel dt v)

/-- The distance left if the next step has the full deceleration. -/
def fullStepBound (v : K) : K :=
  if v ≤ maxDecel * dt then v * dt * 0.5
  else v ^ 2 * 0.5 / maxDecel +
    (tailExcess maxDecel maxJerk dt (v - maxDecel * dt) +
      lastStepExcess maxDecel dt (v - maxDecel * dt))

end Definitions

section Field

variable {K : Type*} [Field K] [LinearOrder K] [IsStrictOrderedRing K]
  {maxDecel maxJerk dt : K}

/-! ## The excess terms -/

theorem mul_half (x : K) : x * 0.5 = x / 2 := by
  have hhalf : (0.5 : K) = 1 / 2 := by norm_num
  rw [hhalf, mul_one_div]

theorem tailExcess_eq (v : K) : tailExcess maxDecel maxJerk dt v =
    rampShare maxDecel maxJerk dt * (tailSpeed maxDecel maxJerk v ^ 2 / (2 * maxDecel) +
      tailSpeed maxDecel maxJerk v * dt) := by
  rw [tailExcess, mul_half, div_div]

theorem lastStepExcess_eq (v : K) :
    lastStepExcess maxDecel dt v = min v (maxDecel * dt) * dt / 2 := by
  rw [lastStepExcess, mul_half]

theorem rampExcess_eq (v a : K) : rampExcess maxDecel maxJerk v a =
    v * (maxDecel + a) ^ 2 / (2 * maxJerk * maxDecel) := by
  rw [rampExcess, mul_half, div_div, mul_assoc]

theorem stopExcess_eq (v : K) : stopExcess maxDecel maxJerk dt v =
    v * maxDecel / (2 * maxJerk) + tailExcess maxDecel maxJerk dt v +
      lastStepExcess maxDecel dt v := by
  rw [stopExcess, mul_half, div_div]

theorem stopBound_eq (v a : K) : stopBound maxDecel maxJerk dt v a =
    v ^ 2 / (2 * maxDecel) + rampExcess maxDecel maxJerk v a +
      (tailExcess maxDecel maxJerk dt v + lastStepExcess maxDecel dt v) := by
  rw [stopBound, mul_half, div_div]

theorem fullStepBound_eq (v : K) : fullStepBound maxDecel maxJerk dt v =
    if v ≤ maxDecel * dt then v * dt / 2
    else v ^ 2 / (2 * maxDecel) + (tailExcess maxDecel maxJerk dt (v - maxDecel * dt) +
      lastStepExcess maxDecel dt (v - maxDecel * dt)) := by
  rw [fullStepBound, mul_half, mul_half, div_div]

/-! ## The steps -/

/-- Below its limit the deceleration is ramped up. -/
theorem jerkPhase_of_lt (maxJerk dt v : K) {a : K} (h : -maxDecel < a) :
    (jerkPhase maxDecel maxJerk dt v a).1 = max (a - maxJerk * dt) (-maxDecel) := by
  unfold jerkPhase
  by_cases hcap : a + -maxJerk * dt < -maxDecel
  · rw [if_pos h, if_pos hcap, max_eq_right (by linarith)]
  · rw [if_pos h, if_neg hcap, max_eq_left (by linarith)]
    ring

/-- At its limit the deceleration is held, or ramped down when the speed is one
from which the loop does so. -/
theorem jerkPhase_of_eq (hd : 0 < maxDecel) {v : K} :
    (jerkPhase maxDecel maxJerk dt v (-maxDecel)).1 = -maxDecel ∨
      (jerkPhase maxDecel maxJerk dt v (-maxDecel)).1 = min (-maxDecel + maxJerk * dt) 0 ∧
        tailSpeed maxDecel maxJerk v = v := by
  have habs : stdAbs (-maxDecel) = maxDecel := by simp [stdAbs, hd]
  unfold jerkPhase
  simp only [gt_iff_lt, lt_self_iff_false, if_false, habs]
  by_cases hdown : (if 1e-9 < maxDecel then v / maxDecel else 0) ≤ maxDecel / maxJerk
  · right
    constructor
    · by_cases hover : 0 < -maxDecel + maxJerk * dt
      · simp [hdown, hover, hover.le]
      · simp [hdown, hover, not_lt.1 hover]
    · unfold tailSpeed
      split
      case isTrue hthreshold =>
        rw [if_pos hthreshold, div_le_iff₀ hd, div_mul_eq_mul_div] at hdown
        exact min_eq_left hdown
      case isFalse => rfl
  · left
    rw [if_neg hdown]

/-- A phase keeps the acceleration within the deceleration and the jerk within its limit. -/
theorem jerkPhase_bounds {a : K} (v : K) (hd : 0 ≤ maxDecel)
    (hj : 0 ≤ maxJerk) (hdt : 0 ≤ dt) (hlo : -maxDecel ≤ a) (hhi : a ≤ 0) :
    (-maxDecel ≤ (jerkPhase maxDecel maxJerk dt v a).1 ∧
        (jerkPhase maxDecel maxJerk dt v a).1 ≤ 0) ∧
      |(jerkPhase maxDecel maxJerk dt v a).2| ≤ maxJerk := by
  have hstep : 0 ≤ maxJerk * dt := mul_nonneg hj hdt
  have habs : |maxJerk| ≤ maxJerk := (abs_of_nonneg hj).le
  unfold jerkPhase
  by_cases hup : a > -maxDecel
  · rw [if_pos hup]
    by_cases hcap : a + -maxJerk * dt < -maxDecel
    · rw [if_pos hcap]
      simp [hd, hj]
    · rw [if_neg hcap]
      refine ⟨⟨not_lt.1 hcap, ?_⟩, (abs_neg maxJerk).trans_le habs⟩
      rw [neg_mul]
      linarith
  · rw [if_neg hup]
    dsimp only
    generalize (if stdAbs a > 1e-9 then v / stdAbs a else 0) = tStop
    by_cases hdown : tStop ≤ stdAbs a / maxJerk
    · rw [if_pos hdown]
      by_cases hover : a + maxJerk * dt > 0
      · simp [hover, hd, hj]
      · rw [if_neg hover]
        exact ⟨⟨by linarith, not_lt.1 hover⟩, habs⟩
    · rw [if_neg hdown]
      exact ⟨⟨hlo, hhi⟩, by simpa using hj⟩

/-- The deceleration left when it is ramped down. -/
theorem rampDown_eq (hd : 0 < maxDecel) :
    min (-maxDecel + maxJerk * dt) 0 =
      -(maxDecel * (1 - rampShare maxDecel maxJerk dt)) := by
  have hshare : maxDecel * rampShare maxDecel maxJerk dt = min (maxJerk * dt) maxDecel := by
    rw [rampShare, mul_min_of_nonneg _ _ hd.le, mul_div_cancel₀ _ hd.ne', mul_one]
  rw [mul_sub, hshare, mul_one, neg_sub]
  rcases le_total (maxJerk * dt) maxDecel with h | h
  · rw [min_eq_left h, min_eq_left (by linarith)]
    ring
  · rw [min_eq_right h, min_eq_right (by linarith), sub_self]

/-! ## The bound over one step -/

theorem rampShare_nonneg (hd : 0 < maxDecel) (hj : 0 < maxJerk) (hdt : 0 < dt) :
    0 ≤ rampShare maxDecel maxJerk dt :=
  le_min (by positivity) zero_le_one

theorem tailSpeed_nonneg (hd : 0 < maxDecel) (hj : 0 < maxJerk) {v : K} (hv : 0 ≤ v) :
    0 ≤ tailSpeed maxDecel maxJerk v := by
  unfold tailSpeed
  split
  · exact le_min hv (by positivity)
  · exact hv

omit [IsStrictOrderedRing K] in
theorem tailSpeed_le (maxDecel maxJerk v : K) : tailSpeed maxDecel maxJerk v ≤ v := by
  unfold tailSpeed
  split
  · exact min_le_left _ _
  · exact le_rfl

omit [IsStrictOrderedRing K] in
theorem tailSpeed_mono (maxDecel maxJerk : K) {v w : K} (h : v ≤ w) :
    tailSpeed maxDecel maxJerk v ≤ tailSpeed maxDecel maxJerk w := by
  unfold tailSpeed
  split
  · exact min_le_min_right _ h
  · exact h

theorem tailExcess_mono (hd : 0 < maxDecel) (hj : 0 < maxJerk) (hdt : 0 < dt) {v w : K}
    (hv : 0 ≤ v) (h : v ≤ w) :
    tailExcess maxDecel maxJerk dt v ≤ tailExcess maxDecel maxJerk dt w := by
  have hnonneg := tailSpeed_nonneg hd hj hv
  have hshare := rampShare_nonneg hd hj hdt
  have hle := tailSpeed_mono maxDecel maxJerk h
  simp only [tailExcess_eq]
  gcongr

theorem tailExcess_nonneg (hd : 0 < maxDecel) (hj : 0 < maxJerk) (hdt : 0 < dt) {v : K}
    (hv : 0 ≤ v) : 0 ≤ tailExcess maxDecel maxJerk dt v := by
  have hnonneg := tailSpeed_nonneg hd hj hv
  have hshare := rampShare_nonneg hd hj hdt
  simp only [tailExcess_eq]
  positivity

theorem lastStepExcess_mono (maxDecel : K) (hdt : 0 < dt) {v w : K} (h : v ≤ w) :
    lastStepExcess maxDecel dt v ≤ lastStepExcess maxDecel dt w := by
  simp only [lastStepExcess_eq]
  gcongr

/-- The last step itself. -/
theorem lastStepExcess_of_le {v : K} (h : v ≤ maxDecel * dt) :
    lastStepExcess maxDecel dt v = v * dt / 2 := by
  rw [lastStepExcess_eq, min_eq_left h]

/-- No distance is left at rest. -/
theorem stopBound_zero (hd : 0 < maxDecel) (hj : 0 < maxJerk) (hdt : 0 < dt) (a : K) :
    stopBound maxDecel maxJerk dt 0 a = 0 := by
  have htail : tailSpeed maxDecel maxJerk 0 = 0 :=
    le_antisymm (tailSpeed_le maxDecel maxJerk 0) (tailSpeed_nonneg hd hj le_rfl)
  have hlast := lastStepExcess_of_le (v := 0) (mul_pos hd hdt).le
  simp [stopBound_eq, rampExcess_eq, tailExcess_eq, htail, hlast]

/-- A step at the full deceleration. -/
theorem fullStep_eq (hd : 0 < maxDecel) (hj : 0 < maxJerk) (hdt : 0 < dt) {v : K} :
    (v + max 0 (v + -maxDecel * dt)) * 0.5 * dt +
      stopBound maxDecel maxJerk dt (max 0 (v + -maxDecel * dt)) (-maxDecel) =
      fullStepBound maxDecel maxJerk dt v := by
  have hhalf : (0.5 : K) = 1 / 2 := by norm_num
  simp only [fullStepBound_eq]
  rw [hhalf]
  split
  case isTrue h =>
    rw [max_eq_left (by linarith), stopBound_zero hd hj hdt]
    ring
  case isFalse h =>
    have hv : v + -maxDecel * dt = v - maxDecel * dt := by ring
    rw [hv, max_eq_right (sub_pos.2 (not_le.1 h)).le, stopBound_eq, rampExcess_eq]
    field_simp
    ring

theorem fullStepBound_le (hd : 0 < maxDecel) (hj : 0 < maxJerk) (hdt : 0 < dt) {v : K}
    (hv : 0 ≤ v) :
    fullStepBound maxDecel maxJerk dt v ≤
      v ^ 2 / (2 * maxDecel) +
        (tailExcess maxDecel maxJerk dt v + lastStepExcess maxDecel dt v) := by
  simp only [fullStepBound_eq]
  split
  case isTrue h =>
    have htail := tailExcess_nonneg hd hj hdt hv
    have hbrake : 0 ≤ v ^ 2 / (2 * maxDecel) := by positivity
    rw [lastStepExcess_of_le h]
    linarith
  case isFalse h =>
    have hle : v - maxDecel * dt ≤ v := sub_le_self _ (by positivity)
    have htail := tailExcess_mono hd hj hdt (by linarith) hle
    have hlast := lastStepExcess_mono maxDecel hdt hle
    gcongr

/-- A step of the ramp up: what it travels beyond its share of the braking distance
is covered by what the ramp from `a` adds beyond the ramp from the new acceleration. -/
theorem rampStep_le (hd : 0 < maxDecel) (hj : 0 < maxJerk) (hdt : 0 < dt) {v a : K}
    (hv : 0 ≤ v) (ha : a ≤ 0) (hcap : -maxDecel < a - maxJerk * dt) :
    (v + max 0 (v + (a - maxJerk * dt) * dt)) * 0.5 * dt +
      stopBound maxDecel maxJerk dt (max 0 (v + (a - maxJerk * dt) * dt))
        (a - maxJerk * dt) ≤
      stopBound maxDecel maxJerk dt v a := by
  have hhalf : (0.5 : K) = 1 / 2 := by norm_num
  have hstep : 0 < maxJerk * dt := mul_pos hj hdt
  obtain ⟨a', ha'⟩ : ∃ a', a' = a - maxJerk * dt := ⟨_, rfl⟩
  rw [← ha'] at hcap ⊢
  have hle : v + a' * dt ≤ v :=
    add_le_of_nonpos_right (mul_nonpos_of_nonpos_of_nonneg (by linarith) hdt.le)
  have htail := tailExcess_nonneg hd hj hdt hv
  have hbrake : 0 ≤ v ^ 2 / (2 * maxDecel) := by positivity
  have hramp : 0 ≤ rampExcess maxDecel maxJerk v a := by
    simp only [rampExcess_eq]
    positivity
  rw [hhalf]
  rcases le_total (v + a' * dt) 0 with hrest | hmoving
  · -- the step comes to rest
    have hlow : v ≤ maxDecel * dt := by nlinarith
    rw [max_eq_left hrest, stopBound_zero hd hj hdt, stopBound_eq, lastStepExcess_of_le hlow]
    linarith
  · rw [max_eq_right hmoving]
    generalize hv' : v + a' * dt = v' at hle hmoving
    have htail' := tailExcess_mono hd hj hdt hmoving hle
    have hlast := lastStepExcess_mono maxDecel hdt hle
    have hexcess : (v + v') * dt * (maxDecel + a') ≤
        v * dt * (2 * maxDecel + a + a') := by
      have hroom : 0 ≤ maxDecel + a' := by linarith
      calc (v + v') * dt * (maxDecel + a')
          ≤ (v + v) * dt * (maxDecel + a') := by gcongr
        _ = v * dt * (2 * maxDecel + a' + a') := by ring
        _ ≤ v * dt * (2 * maxDecel + a + a') := by
            gcongr
            linarith
    have htravel : (v + v') * (1 / 2) * dt + v' ^ 2 / (2 * maxDecel) =
        v ^ 2 / (2 * maxDecel) + (v + v') * dt * (maxDecel + a') / (2 * maxDecel) := by
      rw [← hv']
      field_simp
      ring
    have hgain : rampExcess maxDecel maxJerk v' a' +
        v * dt * (2 * maxDecel + a + a') / (2 * maxDecel) ≤
        rampExcess maxDecel maxJerk v a := by
      have hmono : rampExcess maxDecel maxJerk v' a' ≤ rampExcess maxDecel maxJerk v a' := by
        simp only [rampExcess_eq]
        gcongr
      have hsplit : rampExcess maxDecel maxJerk v a' +
          v * dt * (2 * maxDecel + a + a') / (2 * maxDecel) =
          rampExcess maxDecel maxJerk v a := by
        rw [ha']
        simp only [rampExcess_eq]
        field_simp
        ring
      linarith
    have hshare := div_le_div_of_nonneg_right hexcess (mul_pos two_pos hd).le
    simp only [stopBound_eq]
    linarith

/-- The last two steps of a stop, the first with the share `r` of the deceleration
taken off. -/
theorem lastPair_le (hd : 0 < maxDecel) (hdt : 0 < dt) {r v : K} (hr : 0 ≤ r)
    (hv : maxDecel * dt ≤ v) :
    v * dt / 2 + (v - maxDecel * (1 - r) * dt) * dt ≤
      v ^ 2 / (2 * maxDecel) + r * (v ^ 2 / (2 * maxDecel) + v * dt) +
        maxDecel * dt * dt / 2 := by
  obtain ⟨e, he⟩ : ∃ e, e = maxDecel * dt := ⟨_, rfl⟩
  have hepos : 0 < e := he ▸ mul_pos hd hdt
  rw [← he] at hv
  have hpoly : 3 * (v * e) - 2 * (1 - r) * e ^ 2 ≤
      v ^ 2 + r * (v ^ 2 + 2 * (v * e)) + e ^ 2 := by
    have hsquare : 0 ≤ (v - 3 / 2 * e) ^ 2 + 3 / 4 * e ^ 2 := by positivity
    have hgrow : 0 ≤ r * (v ^ 2 + 2 * (v * e) - 2 * e ^ 2) := by
      have : 0 ≤ v ^ 2 + 2 * (v * e) - 2 * e ^ 2 := by nlinarith
      positivity
    linarith
  calc v * dt / 2 + (v - maxDecel * (1 - r) * dt) * dt
      = (3 * (v * e) - 2 * (1 - r) * e ^ 2) / (2 * maxDecel) := by
        rw [he]
        field_simp
        ring
    _ ≤ (v ^ 2 + r * (v ^ 2 + 2 * (v * e)) + e ^ 2) / (2 * maxDecel) := by
        gcongr
    _ = _ := by
        rw [he]
        field_simp

/-- Two steps of a stop, the first with the share `r` of the deceleration taken off
and the second with the full deceleration. -/
theorem rampDownPair_le (hd : 0 < maxDecel) (hdt : 0 < dt) {r v w : K} (hr : 0 ≤ r)
    (hone : r ≤ 1) (hv : 0 ≤ v) (hw : w = v - maxDecel * (1 - r) * dt) :
    (v + w) * (1 / 2) * dt + (w ^ 2 / (2 * maxDecel) +
        r * ((w - maxDecel * dt) ^ 2 / (2 * maxDecel) + (w - maxDecel * dt) * dt)) ≤
      v ^ 2 / (2 * maxDecel) + r * (v ^ 2 / (2 * maxDecel) + v * dt) := by
  obtain ⟨e, he⟩ : ∃ e, e = maxDecel * dt := ⟨_, rfl⟩
  have hepos : 0 < e := he ▸ mul_pos hd hdt
  have hpair : 0 ≤ r * (e * ((2 - r) * (2 * v + r * e) - (2 * v - (1 - r) * e))) := by
    have hgain : 0 ≤ (2 - r) * (2 * v + r * e) - (2 * v - (1 - r) * e) := by
      have hsum : 0 ≤ (1 - r) * (2 * v + r * e) :=
        mul_nonneg (sub_nonneg.2 hone) (by positivity)
      linarith
    positivity
  have hdiff : v ^ 2 / (2 * maxDecel) + r * (v ^ 2 / (2 * maxDecel) + v * dt) -
      ((v + w) * (1 / 2) * dt + (w ^ 2 / (2 * maxDecel) +
        r * ((w - maxDecel * dt) ^ 2 / (2 * maxDecel) + (w - maxDecel * dt) * dt))) =
      r * (e * ((2 - r) * (2 * v + r * e) - (2 * v - (1 - r) * e))) / (2 * maxDecel) := by
    rw [hw, he]
    field_simp
    ring
  have hquot := div_nonneg hpair (mul_pos two_pos hd).le
  linarith

/-- A step with the deceleration ramped down, followed by one with the full
deceleration. -/
theorem rampDownStep_le (hd : 0 < maxDecel) (hj : 0 < maxJerk) (hdt : 0 < dt) {v : K}
    (hv : 0 ≤ v) (htail : tailSpeed maxDecel maxJerk v = v) :
    (v + max 0 (v + -(maxDecel * (1 - rampShare maxDecel maxJerk dt)) * dt)) * 0.5 * dt +
      fullStepBound maxDecel maxJerk dt
        (max 0 (v + -(maxDecel * (1 - rampShare maxDecel maxJerk dt)) * dt)) ≤
      stopBound maxDecel maxJerk dt v (-maxDecel) := by
  have hhalf : (0.5 : K) = 1 / 2 := by norm_num
  have hr := rampShare_nonneg hd hj hdt
  have hone : rampShare maxDecel maxJerk dt ≤ 1 := min_le_right _ _
  have hramp : rampExcess maxDecel maxJerk v (-maxDecel) = 0 := by simp [rampExcess_eq]
  rw [stopBound_eq, hramp, hhalf, tailExcess_eq, htail]
  have htailExcess : ∀ w : K, 0 ≤ w → tailExcess maxDecel maxJerk dt w ≤
      rampShare maxDecel maxJerk dt * (w ^ 2 / (2 * maxDecel) + w * dt) := by
    intro w hw
    have hnonneg := tailSpeed_nonneg hd hj hw
    have hle := tailSpeed_le maxDecel maxJerk w
    simp only [tailExcess_eq]
    gcongr
  generalize rampShare maxDecel maxJerk dt = r at *
  have hslow : v + -(maxDecel * (1 - r)) * dt ≤ v := by
    have := mul_nonneg (mul_nonneg hd.le (sub_nonneg.2 hone)) hdt.le
    linarith
  rcases le_total (v + -(maxDecel * (1 - r)) * dt) 0 with hrest | hmoving
  · -- the step comes to rest
    have hlow : v ≤ maxDecel * dt := by
      have := mul_nonneg (mul_nonneg hd.le hr) hdt.le
      linarith
    have hfull : fullStepBound maxDecel maxJerk dt 0 = 0 := by
      rw [fullStepBound_eq, if_pos (mul_pos hd hdt).le]
      ring
    have hbrake : 0 ≤ v ^ 2 / (2 * maxDecel) + r * (v ^ 2 / (2 * maxDecel) + v * dt) := by
      positivity
    rw [max_eq_left hrest, hfull, lastStepExcess_of_le hlow]
    linarith
  · rw [max_eq_right hmoving]
    obtain ⟨w, hw⟩ : ∃ w, w = v - maxDecel * (1 - r) * dt := ⟨_, rfl⟩
    rw [show v + -(maxDecel * (1 - r)) * dt = w by rw [hw]; ring] at hslow hmoving ⊢
    simp only [fullStepBound_eq]
    split
    case isTrue hend =>
      rcases le_total v (maxDecel * dt) with hlow | hhigh
      · have hshare : w ≤ r * v := by
          have := mul_le_mul_of_nonneg_left hlow (sub_nonneg.2 hone)
          linarith
        have htravel := mul_le_mul_of_nonneg_right hshare hdt.le
        have hbrake : 0 ≤ v ^ 2 / (2 * maxDecel) + r * (v ^ 2 / (2 * maxDecel)) := by
          positivity
        rw [lastStepExcess_of_le hlow]
        linarith
      · have hpair := lastPair_le hd hdt hr hhigh
        rw [lastStepExcess_eq, min_eq_right hhigh]
        rw [← hw] at hpair
        linarith
    case isFalse hend =>
      have hpair := rampDownPair_le hd hdt hr hone hv hw
      have htail' := htailExcess _ (sub_pos.2 (not_le.1 hend)).le
      have hlast := lastStepExcess_mono maxDecel hdt
        ((sub_le_self w (mul_pos hd hdt).le).trans hslow)
      linarith

/-! ## The loop -/

omit [IsStrictOrderedRing K] in
/-- A step of the loop with the new acceleration `a'` fits and ends where the rest of
the loop does. -/
theorem jerkLimitedLoop_succ {capacity : ℕ} {t v a x a' : K} (hv : 0 < v)
    (ha' : (jerkPhase maxDecel maxJerk dt v a).1 = a')
    (hok : (jerkLimitedLoop maxDecel maxJerk dt (capacity + 1) t v a x).ok = true) :
    (jerkLimitedLoop maxDecel maxJerk dt capacity (t + dt) (max 0 (v + a' * dt)) a'
        (x + (v + max 0 (v + a' * dt)) * 0.5 * dt)).ok = true ∧
      ∀ limit, (jerkLimitedLoop maxDecel maxJerk dt capacity (t + dt)
          (max 0 (v + a' * dt)) a'
          (x + (v + max 0 (v + a' * dt)) * 0.5 * dt)).EndsWithin limit →
        (jerkLimitedLoop maxDecel maxJerk dt (capacity + 1) t v a x).EndsWithin limit := by
  rw [jerkLimitedLoop, if_pos hv] at hok ⊢
  simp only [ha', stdMax_eq_max] at hok ⊢
  refine ⟨hok, ?_⟩
  rintro limit ⟨p, hlast, hp⟩
  exact ⟨p, by simp [List.getLast?_cons, hlast], hp⟩

/-- From any state of the loop, a profile that fits into its buffer ends within the
bound of the state, and within the smaller one if the next step reaches the full
deceleration. -/
theorem jerkLimitedLoop_endsWithin (hd : 0 < maxDecel) (hj : 0 < maxJerk) (hdt : 0 < dt)
    {capacity : ℕ} {t v a x : K} (hv : 0 ≤ v) (hlo : -maxDecel ≤ a) (hhi : a ≤ 0)
    (hok : (jerkLimitedLoop maxDecel maxJerk dt capacity t v a x).ok = true) :
    (jerkLimitedLoop maxDecel maxJerk dt capacity t v a x).EndsWithin
        (x + stopBound maxDecel maxJerk dt v a) ∧
      (-maxDecel < a → a - maxJerk * dt ≤ -maxDecel →
        (jerkLimitedLoop maxDecel maxJerk dt capacity t v a x).EndsWithin
          (x + fullStepBound maxDecel maxJerk dt v)) := by
  induction capacity generalizing t v a x with
  | zero => simp [jerkLimitedLoop] at hok
  | succ capacity ih =>
      rcases hv.eq_or_lt with rfl | hpos
      · -- at rest
        have hbound : fullStepBound maxDecel maxJerk dt 0 = 0 := by
          rw [fullStepBound_eq, if_pos (mul_pos hd hdt).le]
          ring
        have hend : (jerkLimitedLoop maxDecel maxJerk dt (capacity + 1) t 0 a x).EndsWithin
            x := by
          refine ⟨⟨t, 0, 0, 0, x⟩, ?_, le_rfl⟩
          simp [jerkLimitedLoop]
        rw [stopBound_zero hd hj hdt, hbound, add_zero]
        exact ⟨hend, fun _ _ => hend⟩
      · have hstepDecel : 0 < maxJerk * dt := mul_pos hj hdt
        have hfullStep : (jerkPhase maxDecel maxJerk dt v a).1 = -maxDecel →
            (jerkLimitedLoop maxDecel maxJerk dt (capacity + 1) t v a x).EndsWithin
              (x + fullStepBound maxDecel maxJerk dt v) := by
          intro hphase
          obtain ⟨hok', hends⟩ := jerkLimitedLoop_succ hpos hphase hok
          have hrest := (ih (le_max_left _ _) le_rfl (by linarith) hok').1
          rw [add_assoc, fullStep_eq hd hj hdt] at hrest
          exact hends _ hrest
        have hfullBound : fullStepBound maxDecel maxJerk dt v ≤
            stopBound maxDecel maxJerk dt v a := by
          have hle := fullStepBound_le hd hj hdt hv
          have hramp : 0 ≤ rampExcess maxDecel maxJerk v a := by
            simp only [rampExcess_eq]
            positivity
          simp only [stopBound_eq]
          linarith
        rcases hlo.eq_or_lt with rfl | hlt
        · refine ⟨?_, fun h => absurd h (lt_irrefl _)⟩
          rcases jerkPhase_of_eq hd with hhold | ⟨hdown, htail⟩
          · exact (hfullStep hhold).mono (by gcongr)
          · obtain ⟨hok', hends⟩ := jerkLimitedLoop_succ hpos hdown hok
            have hbelow : -maxDecel < min (-maxDecel + maxJerk * dt) 0 :=
              lt_min (by linarith) (by linarith)
            have hback : min (-maxDecel + maxJerk * dt) 0 - maxJerk * dt ≤ -maxDecel := by
              have := min_le_left (-maxDecel + maxJerk * dt) 0
              linarith
            have hrest := (ih (le_max_left _ _) hbelow.le (min_le_right _ _) hok').2
              hbelow hback
            refine hends _ (hrest.mono ?_)
            have hle := rampDownStep_le hd hj hdt hv htail
            rw [← rampDown_eq hd] at hle
            linarith
        · have hphase := jerkPhase_of_lt maxJerk dt v hlt
          rcases le_or_gt (a - maxJerk * dt) (-maxDecel) with hreach | hcap
          · rw [max_eq_right hreach] at hphase
            exact ⟨(hfullStep hphase).mono (by gcongr), fun _ _ => hfullStep hphase⟩
          · refine ⟨?_, fun _ h => absurd hcap (not_lt.2 h)⟩
            rw [max_eq_left hcap.le] at hphase
            obtain ⟨hok', hends⟩ := jerkLimitedLoop_succ hpos hphase hok
            have hrest := (ih (le_max_left _ _) hcap.le (by linarith) hok').1
            have hle := rampStep_le hd hj hdt hv hhi hcap
            exact hends _ (hrest.mono (by linarith))

end Field

end Motion

end SafetyCore
