import Mathlib.Algebra.Group.Even
import Mathlib.Algebra.Order.BigOperators.Group.Finset
import Mathlib.Algebra.Order.Group.MinMax
import SafetyCore.Motion.StopProfile.RampDown

/-!
# The schedule of a stop profile

Which deceleration a round of the loop has is known in advance. It is ramped up in the first
rounds, then held as long as the speed does not allow it to be ramped down, and from there on
it is one step lower in every other round. `roundDecel` is this schedule and `plannedSpeed`
the speed that is left by it, below zero once the vehicle is at rest. The distance of the
profile is the sum of its speeds, by the trapezoidal rule.
-/

namespace SafetyCore

open Arithmetic Transition

namespace Motion

section Definitions

variable {K : Type*} [Field K] [LinearOrder K] [FloorSemiring K] (maxDecel maxJerk dt v : K)

/-- The number of rounds that ramp the deceleration up. -/
def rampRounds : ℕ := ⌈maxDecel / (maxJerk * dt)⌉₊

omit [FloorSemiring K] in
/-- The deceleration of round `k`, unless it is ramped down. -/
def heldDecel (k : ℕ) : K := min ((k + 1) * (maxJerk * dt)) maxDecel

/-- The speed from which the deceleration is held. -/
def rampedSpeed : K :=
  v - ∑ i ∈ Finset.range (rampRounds maxDecel maxJerk dt), heldDecel maxDecel maxJerk dt i * dt

/-- The number of rounds before the first that ramps the deceleration down. -/
def heldRounds : ℕ :=
  rampRounds maxDecel maxJerk dt +
    if 1e-9 < maxDecel then
      ⌈(rampedSpeed maxDecel maxJerk dt v - maxDecel * maxDecel / maxJerk) / (maxDecel * dt)⌉₊
    else 0

/-- The deceleration of round `k`. -/
def roundDecel (k : ℕ) : K :=
  if k < heldRounds maxDecel maxJerk dt v then heldDecel maxDecel maxJerk dt k
  else if Even (k - heldRounds maxDecel maxJerk dt v) then
    maxDecel - min (maxJerk * dt) maxDecel
  else maxDecel

/-- The speed left before round `k`. -/
def plannedSpeed (k : ℕ) : K :=
  v - ∑ i ∈ Finset.range k, roundDecel maxDecel maxJerk dt v i * dt

/-- The distance of the stop, from the speeds of its first `n` rounds. -/
def stopTravel (n : ℕ) : K :=
  (∑ k ∈ Finset.range n, max 0 (plannedSpeed maxDecel maxJerk dt v k)) * dt - v * dt * 0.5

end Definitions

section Field

variable {K : Type*} [Field K] [LinearOrder K] [IsStrictOrderedRing K] {maxDecel maxJerk dt : K}

/-! ## The distance of a loop -/

/-- The loop travels by the trapezoidal rule. -/
theorem jerkRounds_iterate_x (s : JerkState K) (n : ℕ) :
    ((jerkRounds maxDecel maxJerk dt).next^[n] s).x =
      s.x + (∑ k ∈ Finset.range n, ((jerkRounds maxDecel maxJerk dt).next^[k] s).v) * dt +
        (((jerkRounds maxDecel maxJerk dt).next^[n] s).v - s.v) / 2 * dt := by
  induction n with
  | zero => simp
  | succ n ih =>
      rw [Function.iterate_succ_apply', jerkRounds_next_x, ih, Finset.sum_range_succ]
      ring

variable [FloorSemiring K] {v : K} {k : ℕ}

/-! ## The schedule -/

theorem lt_rampRounds_iff (hj : 0 < maxJerk) (hdt : 0 < dt) :
    k < rampRounds maxDecel maxJerk dt ↔ k * (maxJerk * dt) < maxDecel := by
  rw [rampRounds, Nat.lt_ceil, lt_div_iff₀ (mul_pos hj hdt)]

theorem rampRounds_pos (hd : 0 < maxDecel) (hj : 0 < maxJerk) (hdt : 0 < dt) :
    0 < rampRounds maxDecel maxJerk dt := by
  rw [lt_rampRounds_iff hj hdt, Nat.cast_zero, zero_mul]
  exact hd

omit [IsStrictOrderedRing K] in
theorem rampRounds_le_heldRounds (maxDecel maxJerk dt v : K) :
    rampRounds maxDecel maxJerk dt ≤ heldRounds maxDecel maxJerk dt v :=
  Nat.le_add_right _ _

theorem heldDecel_of_lt (hj : 0 < maxJerk) (hdt : 0 < dt)
    (h : k + 1 < rampRounds maxDecel maxJerk dt) :
    heldDecel maxDecel maxJerk dt k = (k + 1) * (maxJerk * dt) := by
  have hlt := (lt_rampRounds_iff hj hdt).1 h
  rw [Nat.cast_succ] at hlt
  exact min_eq_left hlt.le

theorem heldDecel_of_le (hj : 0 < maxJerk) (hdt : 0 < dt)
    (h : rampRounds maxDecel maxJerk dt ≤ k + 1) :
    heldDecel maxDecel maxJerk dt k = maxDecel := by
  have hle : ¬ ((k + 1 : ℕ) : K) * (maxJerk * dt) < maxDecel :=
    mt (lt_rampRounds_iff hj hdt).2 (not_lt.2 h)
  rw [Nat.cast_succ] at hle
  exact min_eq_right (not_lt.1 hle)

omit [IsStrictOrderedRing K] in
theorem roundDecel_of_lt (h : k < heldRounds maxDecel maxJerk dt v) :
    roundDecel maxDecel maxJerk dt v k = heldDecel maxDecel maxJerk dt k :=
  if_pos h

omit [IsStrictOrderedRing K] in
theorem roundDecel_heldRounds_add (m : ℕ) :
    roundDecel maxDecel maxJerk dt v (heldRounds maxDecel maxJerk dt v + m) =
      if Even m then maxDecel - min (maxJerk * dt) maxDecel else maxDecel := by
  rw [roundDecel, if_neg (Nat.not_lt.2 (Nat.le_add_right _ _)), Nat.add_sub_cancel_left]

theorem roundDecel_nonneg (hd : 0 < maxDecel) (hj : 0 < maxJerk) (hdt : 0 < dt) (v : K)
    (k : ℕ) : 0 ≤ roundDecel maxDecel maxJerk dt v k := by
  unfold roundDecel
  split_ifs
  · exact le_min (by positivity) hd.le
  · exact sub_nonneg.2 (min_le_right _ _)
  · exact hd.le

omit [IsStrictOrderedRing K] in
theorem plannedSpeed_zero : plannedSpeed maxDecel maxJerk dt v 0 = v := by
  rw [plannedSpeed, Finset.range_zero, Finset.sum_empty, sub_zero]

omit [IsStrictOrderedRing K] in
theorem plannedSpeed_succ :
    plannedSpeed maxDecel maxJerk dt v (k + 1) =
      plannedSpeed maxDecel maxJerk dt v k - roundDecel maxDecel maxJerk dt v k * dt := by
  rw [plannedSpeed, Finset.sum_range_succ, ← sub_sub, ← plannedSpeed]

theorem plannedSpeed_antitone (hd : 0 < maxDecel) (hj : 0 < maxJerk) (hdt : 0 < dt) (v : K) :
    Antitone (plannedSpeed maxDecel maxJerk dt v) := by
  refine antitone_nat_of_succ_le fun k => ?_
  rw [plannedSpeed_succ]
  exact sub_le_self _ (mul_nonneg (roundDecel_nonneg hd hj hdt v k) hdt.le)

/-! ## The speeds at which the deceleration is held -/

omit [FloorSemiring K] in
theorem holds_iff (hd : 0 < maxDecel) :
    Holds maxDecel maxJerk v ↔ 1e-9 < maxDecel ∧ maxDecel * maxDecel / maxJerk < v := by
  rw [Holds, lt_div_iff₀ hd, div_mul_eq_mul_div]

/-- The speed while the deceleration is held. -/
theorem plannedSpeed_rampRounds_add (hj : 0 < maxJerk) (hdt : 0 < dt) {m : ℕ}
    (h : rampRounds maxDecel maxJerk dt + m ≤ heldRounds maxDecel maxJerk dt v) :
    plannedSpeed maxDecel maxJerk dt v (rampRounds maxDecel maxJerk dt + m) =
      rampedSpeed maxDecel maxJerk dt v - m * (maxDecel * dt) := by
  induction m with
  | zero =>
      have hramp : ∑ i ∈ Finset.range (rampRounds maxDecel maxJerk dt),
          roundDecel maxDecel maxJerk dt v i * dt =
          ∑ i ∈ Finset.range (rampRounds maxDecel maxJerk dt),
            heldDecel maxDecel maxJerk dt i * dt := by
        refine Finset.sum_congr rfl fun i hi => ?_
        rw [roundDecel_of_lt ((Finset.mem_range.1 hi).trans_le h)]
      rw [add_zero, plannedSpeed, hramp, Nat.cast_zero, zero_mul, sub_zero]
      rfl
  | succ m ih =>
      rw [← Nat.add_assoc] at h ⊢
      rw [plannedSpeed_succ, ih (Nat.le_of_succ_le h), roundDecel_of_lt (Nat.lt_of_succ_le h),
        heldDecel_of_le hj hdt (by omega), Nat.cast_succ]
      ring

theorem holds_plannedSpeed (hd : 0 < maxDecel) (hj : 0 < maxJerk) (hdt : 0 < dt)
    (hramped : rampRounds maxDecel maxJerk dt ≤ k)
    (hheld : k < heldRounds maxDecel maxJerk dt v) :
    Holds maxDecel maxJerk (plannedSpeed maxDecel maxJerk dt v k) := by
  obtain ⟨m, rfl⟩ := Nat.exists_eq_add_of_le hramped
  have hspeed := plannedSpeed_rampRounds_add hj hdt hheld.le
  unfold heldRounds at hheld
  split at hheld
  case isFalse => omega
  case isTrue hthreshold =>
    have hm := Nat.lt_ceil.1 (Nat.lt_of_add_lt_add_left hheld)
    rw [lt_div_iff₀ (mul_pos hd hdt)] at hm
    rw [holds_iff hd, hspeed]
    exact ⟨hthreshold, by linarith⟩

theorem not_holds_plannedSpeed (hd : 0 < maxDecel) (hj : 0 < maxJerk) (hdt : 0 < dt)
    (h : heldRounds maxDecel maxJerk dt v ≤ k) :
    ¬ Holds maxDecel maxJerk (plannedSpeed maxDecel maxJerk dt v k) := by
  rw [holds_iff hd]
  rintro ⟨hthreshold, hlt⟩
  have hfirst := hlt.trans_le (plannedSpeed_antitone hd hj hdt v h)
  have hheld : heldRounds maxDecel maxJerk dt v = rampRounds maxDecel maxJerk dt +
      ⌈(rampedSpeed maxDecel maxJerk dt v - maxDecel * maxDecel / maxJerk) /
        (maxDecel * dt)⌉₊ := by
    rw [heldRounds, if_pos hthreshold]
  have hspeed := plannedSpeed_rampRounds_add hj hdt hheld.ge
  have hceil := Nat.le_ceil
    ((rampedSpeed maxDecel maxJerk dt v - maxDecel * maxDecel / maxJerk) / (maxDecel * dt))
  rw [div_le_iff₀ (mul_pos hd hdt)] at hceil
  rw [hheld, hspeed] at hfirst
  linarith

/-! ## The rounds follow the schedule -/

/-- The deceleration with which round `k` begins. -/
def decelBefore (maxDecel maxJerk dt v : K) : ℕ → K
  | 0 => 0
  | k + 1 => roundDecel maxDecel maxJerk dt v k

/-- While it is ramped up. -/
theorem decelBefore_of_lt (hj : 0 < maxJerk) (hdt : 0 < dt)
    (h : k < rampRounds maxDecel maxJerk dt) :
    decelBefore maxDecel maxJerk dt v k = k * (maxJerk * dt) := by
  cases k with
  | zero => rw [Nat.cast_zero, zero_mul, decelBefore]
  | succ k =>
      have hheld := (Nat.lt_of_succ_lt h).trans_le (rampRounds_le_heldRounds _ _ _ v)
      rw [decelBefore, roundDecel_of_lt hheld, heldDecel_of_lt hj hdt h, Nat.cast_succ]

/-- While it is held, and at its end. -/
theorem decelBefore_of_le (hd : 0 < maxDecel) (hj : 0 < maxJerk) (hdt : 0 < dt)
    (hramped : rampRounds maxDecel maxJerk dt ≤ k)
    (hheld : k ≤ heldRounds maxDecel maxJerk dt v) :
    decelBefore maxDecel maxJerk dt v k = maxDecel := by
  cases k with
  | zero => exact absurd hramped (not_le.2 (rampRounds_pos hd hj hdt))
  | succ k =>
      rw [decelBefore, roundDecel_of_lt (Nat.lt_of_succ_le hheld),
        heldDecel_of_le hj hdt hramped]

/-- While it is ramped down and up again in turn. -/
theorem decelBefore_heldRounds_add (hd : 0 < maxDecel) (hj : 0 < maxJerk) (hdt : 0 < dt)
    (m : ℕ) :
    decelBefore maxDecel maxJerk dt v (heldRounds maxDecel maxJerk dt v + m) =
      if Even m then maxDecel else maxDecel - min (maxJerk * dt) maxDecel := by
  cases m with
  | zero =>
      rw [add_zero, if_pos Even.zero,
        decelBefore_of_le hd hj hdt (rampRounds_le_heldRounds _ _ _ _) le_rfl]
  | succ m =>
      rw [← Nat.add_assoc, decelBefore, roundDecel_heldRounds_add]
      by_cases hm : Even m
      · rw [if_pos hm, if_neg (by rw [Nat.even_add_one]; exact not_not.2 hm)]
      · rw [if_neg hm, if_pos (Nat.even_add_one.2 hm)]

/-- A round that begins with the speed and the deceleration of the schedule has the
deceleration of the schedule. -/
theorem jerkPhase_scheduled (hd : 0 < maxDecel) (hj : 0 < maxJerk) (hdt : 0 < dt) (v : K)
    (k : ℕ) :
    (jerkPhase maxDecel maxJerk dt (plannedSpeed maxDecel maxJerk dt v k)
        (-decelBefore maxDecel maxJerk dt v k)).1 =
      -roundDecel maxDecel maxJerk dt v k := by
  have hstep := mul_pos hj hdt
  rcases lt_or_ge k (rampRounds maxDecel maxJerk dt) with hramp | hramped
  · -- it is ramped up
    have hlt := (lt_rampRounds_iff hj hdt).1 hramp
    rw [decelBefore_of_lt hj hdt hramp, jerkPhase_of_lt _ _ _ (neg_lt_neg hlt),
      roundDecel_of_lt (hramp.trans_le (rampRounds_le_heldRounds _ _ _ v)), heldDecel,
      ← max_neg_neg]
    congr 1
    ring
  rcases lt_or_ge k (heldRounds maxDecel maxJerk dt v) with hheld | hdown
  · -- it is held
    rw [decelBefore_of_le hd hj hdt hramped hheld.le, roundDecel_of_lt hheld,
      heldDecel_of_le hj hdt (Nat.le_succ_of_le hramped)]
    exact jerkPhase_of_holds dt hd (holds_plannedSpeed hd hj hdt hramped hheld)
  have hnot := not_holds_plannedSpeed hd hj hdt hdown
  obtain ⟨m, rfl⟩ := Nat.exists_eq_add_of_le hdown
  rw [decelBefore_heldRounds_add hd hj hdt, roundDecel_heldRounds_add]
  by_cases hm : Even m
  · -- it is ramped down by a step
    rw [if_pos hm, if_pos hm, jerkPhase_of_not_holds dt hd hj hnot, neg_sub,
      ← min_sub_sub_right, sub_self, sub_eq_neg_add, add_comm]
  · -- and up again
    have hmin : 0 < min (maxJerk * dt) maxDecel := lt_min hstep hd
    have hone := min_le_left (maxJerk * dt) maxDecel
    rw [if_neg hm, if_neg hm, jerkPhase_of_lt _ _ _ (by linarith)]
    exact max_eq_right (by linarith)

/-- The states of a loop that ends are those of the schedule. -/
theorem jerkRounds_iterate_scheduled (hd : 0 < maxDecel) (hj : 0 < maxJerk) (hdt : 0 < dt)
    {n i : ℕ} (hends : (jerkRounds maxDecel maxJerk dt).EndsAfter n (jerkStart v))
    (hi : i ≤ n) :
    ((jerkRounds maxDecel maxJerk dt).next^[i] (jerkStart v)).v =
        max 0 (plannedSpeed maxDecel maxJerk dt v i) ∧
      ((jerkRounds maxDecel maxJerk dt).next^[i] (jerkStart v)).a =
        -decelBefore maxDecel maxJerk dt v i := by
  induction i with
  | zero =>
      rw [plannedSpeed_zero, decelBefore, neg_zero]
      exact ⟨stdMax_eq_max 0 v, rfl⟩
  | succ i ih =>
      obtain ⟨hspeed, haccel⟩ := ih (Nat.le_of_succ_le hi)
      have hgo := jerkRounds_goesOn.1 ((BufferedLoop.endsAfter_iff.1 hends).1 i hi)
      have hmoving : 0 < plannedSpeed maxDecel maxJerk dt v i := by
        rw [hspeed] at hgo
        exact (lt_max_iff.1 hgo).resolve_left (lt_irrefl 0)
      rw [max_eq_right hmoving.le] at hspeed
      have hnext : ((jerkRounds maxDecel maxJerk dt).next
          ((jerkRounds maxDecel maxJerk dt).next^[i] (jerkStart v))).a =
            -roundDecel maxDecel maxJerk dt v i := by
        rw [jerkRounds_next_a, hspeed, haccel, jerkPhase_scheduled hd hj hdt]
      rw [Function.iterate_succ_apply', jerkRounds_next_v_of hnext, hspeed, plannedSpeed_succ]
      exact ⟨rfl, hnext⟩

/-! ## The distance of a profile -/

/-- Once the vehicle is at rest nothing is added. -/
theorem stopTravel_of_le (hd : 0 < maxDecel) (hj : 0 < maxJerk) (hdt : 0 < dt) {n m : ℕ}
    (hrest : plannedSpeed maxDecel maxJerk dt v n ≤ 0) (hle : n ≤ m) :
    stopTravel maxDecel maxJerk dt v m = stopTravel maxDecel maxJerk dt v n := by
  have hsum : ∑ k ∈ Finset.range n, max 0 (plannedSpeed maxDecel maxJerk dt v k) =
      ∑ k ∈ Finset.range m, max 0 (plannedSpeed maxDecel maxJerk dt v k) := by
    refine Finset.sum_subset (Finset.range_mono hle) fun k _ hk => ?_
    have hlate := not_lt.1 (mt Finset.mem_range.2 hk)
    exact max_eq_left ((plannedSpeed_antitone hd hj hdt v hlate).trans hrest)
  rw [stopTravel, ← hsum, ← stopTravel]

/-- A profile that is generated ends at the distance of its schedule. -/
theorem generateJerkLimitedStopProfile_distance (hv : 0 ≤ v) {capacity : ℕ}
    (hok : (generateJerkLimitedStopProfile v maxDecel maxJerk dt capacity).ok = true) :
    ∃ p, (generateJerkLimitedStopProfile v maxDecel maxJerk dt capacity).points.getLast? =
        some p ∧ p.distanceM = stopTravel maxDecel maxJerk dt v capacity := by
  obtain ⟨hin, -⟩ := generateJerkLimitedStopProfile_of_ok hok
  have hd := not_le.1 hin.not_decel_le
  have hj := not_le.1 hin.not_jerk_le
  have hdt := not_le.1 hin.not_dt_le
  obtain ⟨n, hn, hends, hpoints⟩ := generateJerkLimitedStopProfile_trace hok
  have hspeed {i : ℕ} (hi : i ≤ n) :=
    (jerkRounds_iterate_scheduled hd hj hdt hends hi).1
  have hstopped : max 0 (plannedSpeed maxDecel maxJerk dt v n) = 0 := by
    have hgo := Bool.eq_false_iff.1 (BufferedLoop.endsAfter_iff.1 hends).2
    rw [ne_eq, jerkRounds_goesOn, hspeed le_rfl] at hgo
    exact le_antisymm (not_lt.1 hgo) (le_max_left _ _)
  have hstart : (jerkStart v).v = v := (stdMax_eq_max 0 v).trans (max_eq_right hv)
  refine ⟨_, hpoints ▸ BufferedLoop.getLast?_trace n _, ?_⟩
  change ((jerkRounds maxDecel maxJerk dt).next^[n] (jerkStart v)).x = _
  rw [stopTravel_of_le hd hj hdt (max_eq_left_iff.1 hstopped) hn.le, jerkRounds_iterate_x,
    hspeed le_rfl, hstopped, hstart, stopTravel, mul_half,
    Finset.sum_congr rfl fun k hk => hspeed (Finset.mem_range.1 hk).le]
  change 0 + _ + _ = _
  ring

end Field

end Motion

end SafetyCore
