import Mathlib.Algebra.Order.Floor.Semifield
import Mathlib.Data.Rat.Floor
import SafetyCore.Motion.StopProfile.Distance
import SafetyCore.Transition.BufferedLoop

/-!
# The rounds of a jerk-limited stop

The loop of `generateJerkLimitedStopProfile` without its buffer. A round need not slow the
vehicle down: where a single step of the ramp is as large as the deceleration, ramping down
ends at no deceleration at all. But the round after it ramps up again, so that two rounds
take at least one step off the speed, and the loop ends.
-/

namespace SafetyCore

open Arithmetic Transition

namespace Motion

section Definitions

variable {α : Type*} [Zero α] [Add α] [Mul α] [Div α] [Neg α] [OfScientific α]
  [LT α] [DecidableLT α] [LE α] [DecidableLE α]

/-- The variables of the loop. -/
structure JerkState (α : Type*) where
  t : α
  v : α
  a : α
  x : α

/-- The loop of the generator without its buffer. -/
def jerkRounds (maxDecel maxJerk dt : α) :
    BufferedLoop (JerkState α) (TrajectoryPoint α) where
  goesOn s := s.v > 0
  next s :=
    let phase := jerkPhase maxDecel maxJerk dt s.v s.a
    let nextV := stdMax 0 (s.v + phase.1 * dt)
    { t := s.t + dt
      v := nextV
      a := phase.1
      x := s.x + ((s.v + nextV) * 0.5) * dt }
  emit s :=
    let phase := jerkPhase maxDecel maxJerk dt s.v s.a
    ⟨s.t, s.v, phase.1, phase.2, s.x⟩
  final s := ⟨s.t, 0, 0, 0, s.x⟩

theorem jerkLimitedLoop_eq_fill (maxDecel maxJerk dt : α) (capacity : ℕ) (t v a x : α) :
    jerkLimitedLoop maxDecel maxJerk dt capacity t v a x =
      { ok := ((jerkRounds maxDecel maxJerk dt).fill capacity ⟨t, v, a, x⟩).1
        points := ((jerkRounds maxDecel maxJerk dt).fill capacity ⟨t, v, a, x⟩).2 } := by
  induction capacity generalizing t v a x with
  | zero => rfl
  | succ capacity ih =>
      rw [jerkLimitedLoop, BufferedLoop.fill]
      by_cases hv : v > 0
      · have hgo : (jerkRounds maxDecel maxJerk dt).goesOn ⟨t, v, a, x⟩ = true :=
          decide_eq_true hv
        rw [if_pos hv, if_pos hgo]
        dsimp only
        rw [ih]
        rfl
      · have hgo : ¬ (jerkRounds maxDecel maxJerk dt).goesOn ⟨t, v, a, x⟩ = true :=
          fun h => hv (of_decide_eq_true h)
        rw [if_neg hv, if_neg hgo]
        rfl

/-- The state before the first round. -/
def jerkStart (initialSpeed : α) : JerkState α := ⟨0, stdMax 0 initialSpeed, 0, 0⟩

/-- A generated profile is the trace of the loop from the initial speed. -/
theorem generateJerkLimitedStopProfile_trace [FiniteTest α]
    {initialSpeed maxDecel maxJerk dt : α} {capacity : ℕ}
    (hok : (generateJerkLimitedStopProfile initialSpeed maxDecel maxJerk dt
      capacity).ok = true) :
    ∃ n < capacity, (jerkRounds maxDecel maxJerk dt).EndsAfter n (jerkStart initialSpeed) ∧
      (generateJerkLimitedStopProfile initialSpeed maxDecel maxJerk dt capacity).points =
        (jerkRounds maxDecel maxJerk dt).trace n (jerkStart initialSpeed) := by
  have hloop := (generateJerkLimitedStopProfile_of_ok hok).2
  rw [hloop, jerkLimitedLoop_eq_fill] at hok ⊢
  obtain ⟨n, hn, hends, hfill⟩ := BufferedLoop.exists_endsAfter_of_fill hok
  exact ⟨n, hn, hends, congrArg Prod.snd hfill⟩

end Definitions

section Field

variable {K : Type*} [Field K] [LinearOrder K] {maxDecel maxJerk dt : K} {s : JerkState K}

/-- Positive inputs are accepted; without room for a point the loop fails as the check
does. -/
theorem generateJerkLimitedStopProfile_eq_fill (initialSpeed : K) (hd : 0 < maxDecel)
    (hj : 0 < maxJerk) (hdt : 0 < dt) (capacity : ℕ) :
    generateJerkLimitedStopProfile initialSpeed maxDecel maxJerk dt capacity =
      { ok := ((jerkRounds maxDecel maxJerk dt).fill capacity (jerkStart initialSpeed)).1
        points :=
          ((jerkRounds maxDecel maxJerk dt).fill capacity (jerkStart initialSpeed)).2 } := by
  rw [jerkStart, ← jerkLimitedLoop_eq_fill, generateJerkLimitedStopProfile]
  cases capacity with
  | zero => rfl
  | succ capacity => simp [isFinite, hd, hj, hdt]

/-! ## One round -/

theorem jerkRounds_goesOn : (jerkRounds maxDecel maxJerk dt).goesOn s = true ↔ 0 < s.v :=
  decide_eq_true_iff

theorem jerkRounds_next_a :
    ((jerkRounds maxDecel maxJerk dt).next s).a =
      (jerkPhase maxDecel maxJerk dt s.v s.a).1 := rfl

theorem jerkRounds_next_v :
    ((jerkRounds maxDecel maxJerk dt).next s).v =
      max 0 (s.v + ((jerkRounds maxDecel maxJerk dt).next s).a * dt) :=
  stdMax_eq_max _ _

variable [IsStrictOrderedRing K]

theorem jerkRounds_next_x :
    ((jerkRounds maxDecel maxJerk dt).next s).x =
      s.x + (s.v + ((jerkRounds maxDecel maxJerk dt).next s).v) / 2 * dt := by
  have hhalf : (0.5 : K) = 1 / 2 := by norm_num
  rw [← mul_one_div, ← hhalf]
  rfl

/-- The vehicle moves forward and is not accelerated, by no more than the deceleration. -/
structure Decelerating (maxDecel : K) (s : JerkState K) : Prop where
  speed_nonneg : 0 ≤ s.v
  le_accel : -maxDecel ≤ s.a
  accel_le : s.a ≤ 0

theorem decelerating_start (hd : 0 ≤ maxDecel) (initialSpeed : K) :
    Decelerating maxDecel (jerkStart initialSpeed) where
  speed_nonneg := (le_max_left 0 initialSpeed).trans_eq (stdMax_eq_max 0 initialSpeed).symm
  le_accel := neg_nonpos.2 hd
  accel_le := le_rfl

theorem Decelerating.next (h : Decelerating maxDecel s) (hd : 0 ≤ maxDecel) (hj : 0 ≤ maxJerk)
    (hdt : 0 ≤ dt) : Decelerating maxDecel ((jerkRounds maxDecel maxJerk dt).next s) := by
  obtain ⟨⟨hlo, hhi⟩, -⟩ := jerkPhase_bounds s.v hd hj hdt h.le_accel h.accel_le
  refine ⟨?_, hlo, hhi⟩
  rw [jerkRounds_next_v]
  exact le_max_left _ _

theorem Decelerating.next_v_le (h : Decelerating maxDecel s) (hd : 0 ≤ maxDecel)
    (hj : 0 ≤ maxJerk) (hdt : 0 ≤ dt) :
    ((jerkRounds maxDecel maxJerk dt).next s).v ≤ s.v := by
  have hnext := (h.next hd hj hdt).accel_le
  rw [jerkRounds_next_v]
  exact max_le h.speed_nonneg
    (add_le_of_nonpos_right (mul_nonpos_of_nonpos_of_nonneg hnext hdt))

/-- Below its limit the deceleration is at least one step of the ramp in the next round. -/
theorem jerkRounds_next_a_le (h : Decelerating maxDecel s) (hramp : -maxDecel < s.a) :
    ((jerkRounds maxDecel maxJerk dt).next s).a ≤ -min (maxJerk * dt) maxDecel := by
  have haccel := h.accel_le
  have hstep := min_le_left (maxJerk * dt) maxDecel
  rw [jerkRounds_next_a, jerkPhase_of_lt maxJerk dt s.v hramp]
  exact max_le (by linarith) (neg_le_neg (min_le_right _ _))

/-- At its limit the deceleration is held or ramped down by one step. -/
theorem jerkRounds_next_of_full (maxJerk dt : K) (hd : 0 < maxDecel) (hfull : s.a = -maxDecel) :
    ((jerkRounds maxDecel maxJerk dt).next s).a = -maxDecel ∨
      ((jerkRounds maxDecel maxJerk dt).next s).a = min (-maxDecel + maxJerk * dt) 0 := by
  rw [jerkRounds_next_a, hfull]
  exact (jerkPhase_of_eq hd).imp_right And.left

/-! ## The number of rounds -/

section Measure

variable [FloorSemiring K]

/-- Twice the steps that are left in the speed, and one more at the full deceleration, from
where the next round may not slow the vehicle down. -/
def roundsLeft (maxDecel maxJerk dt : K) (s : JerkState K) : ℕ :=
  2 * ⌈s.v / (min (maxJerk * dt) maxDecel * dt)⌉₊ + if s.a = -maxDecel then 1 else 0

/-- A round with at least one step of the ramp takes one step off the speed. -/
theorem ceil_next_v_lt (hd : 0 < maxDecel) (hj : 0 < maxJerk) (hdt : 0 < dt) (hpos : 0 < s.v)
    (ha : ((jerkRounds maxDecel maxJerk dt).next s).a ≤ -min (maxJerk * dt) maxDecel) :
    ⌈((jerkRounds maxDecel maxJerk dt).next s).v / (min (maxJerk * dt) maxDecel * dt)⌉₊ <
      ⌈s.v / (min (maxJerk * dt) maxDecel * dt)⌉₊ := by
  have hmin : 0 < min (maxJerk * dt) maxDecel := lt_min (mul_pos hj hdt) hd
  generalize min (maxJerk * dt) maxDecel = m at hmin ha ⊢
  have hstep : 0 < m * dt := mul_pos hmin hdt
  have hceil : 0 < ⌈s.v / (m * dt)⌉₊ := Nat.ceil_pos.2 (div_pos hpos hstep)
  have hle : ((jerkRounds maxDecel maxJerk dt).next s).v ≤ max 0 (s.v - m * dt) := by
    rw [jerkRounds_next_v]
    have hslow := mul_le_mul_of_nonneg_right ha hdt.le
    exact max_le_max_left 0 (by linarith)
  refine Nat.lt_of_le_of_lt (Nat.ceil_le.2 ?_) (Nat.sub_one_lt_of_lt hceil)
  rw [div_le_iff₀ hstep, Nat.cast_pred hceil]
  have hall := (div_le_iff₀ hstep).1 (Nat.le_ceil (s.v / (m * dt)))
  have hone : (1 : K) ≤ ⌈s.v / (m * dt)⌉₊ := Nat.one_le_cast.2 hceil
  have hnonneg : 0 ≤ ((⌈s.v / (m * dt)⌉₊ : K) - 1) * (m * dt) :=
    mul_nonneg (sub_nonneg.2 hone) hstep.le
  exact hle.trans (max_le hnonneg (by linarith))

theorem roundsLeft_next_lt (hd : 0 < maxDecel) (hj : 0 < maxJerk) (hdt : 0 < dt)
    (h : Decelerating maxDecel s) (hpos : 0 < s.v) :
    roundsLeft maxDecel maxJerk dt ((jerkRounds maxDecel maxJerk dt).next s) <
      roundsLeft maxDecel maxJerk dt s := by
  have hslower := ceil_next_v_lt (s := s) hd hj hdt hpos
  unfold roundsLeft
  rcases h.le_accel.eq_or_lt with hfull | hramp
  · rw [if_pos hfull.symm]
    rcases jerkRounds_next_of_full maxJerk dt hd hfull.symm with hhold | hdown
    · have hlt := hslower (hhold.trans_le (neg_le_neg (min_le_right _ _)))
      split <;> omega
    · have hlimit : ((jerkRounds maxDecel maxJerk dt).next s).a ≠ -maxDecel := by
        have hstep := mul_pos hj hdt
        rw [hdown]
        exact (lt_min (by linarith) (by linarith)).ne'
      have hmin : 0 < min (maxJerk * dt) maxDecel := lt_min (mul_pos hj hdt) hd
      have hle := Nat.ceil_le_ceil (div_le_div_of_nonneg_right
        (h.next_v_le hd.le hj.le hdt.le) (mul_pos hmin hdt).le)
      rw [if_neg hlimit]
      omega
  · have hlt := hslower (jerkRounds_next_a_le h hramp)
    split <;> omega

theorem jerkRounds_exists_endsAfter (hd : 0 < maxDecel) (hj : 0 < maxJerk) (hdt : 0 < dt)
    (h : Decelerating maxDecel s) : ∃ n, (jerkRounds maxDecel maxJerk dt).EndsAfter n s :=
  BufferedLoop.exists_endsAfter (roundsLeft maxDecel maxJerk dt)
    (fun _ hs _ => hs.next hd.le hj.le hdt.le)
    (fun _ hs hgo => roundsLeft_next_lt hd hj hdt hs (jerkRounds_goesOn.1 hgo)) h

/-! ## The whole profile -/

/-- A sample and the next one. -/
structure Follows (dt : K) (p q : TrajectoryPoint K) : Prop where
  time : q.tS = p.tS + dt
  speed_le : q.speedMps ≤ p.speedMps
  distance_le : p.distanceM ≤ q.distanceM

omit [FloorSemiring K] in
theorem Decelerating.follows (h : Decelerating maxDecel s) (hd : 0 ≤ maxDecel)
    (hj : 0 ≤ maxJerk) (hdt : 0 ≤ dt) :
    Follows dt ((jerkRounds maxDecel maxJerk dt).emit s)
        ((jerkRounds maxDecel maxJerk dt).emit ((jerkRounds maxDecel maxJerk dt).next s)) ∧
      Follows dt ((jerkRounds maxDecel maxJerk dt).emit s)
        ((jerkRounds maxDecel maxJerk dt).final ((jerkRounds maxDecel maxJerk dt).next s)) := by
  have hnonneg := (h.next hd hj hdt).speed_nonneg
  have hspeed := h.next_v_le hd hj hdt
  have hx : s.x ≤ ((jerkRounds maxDecel maxJerk dt).next s).x := by
    have hv := h.speed_nonneg
    rw [jerkRounds_next_x]
    exact le_add_of_nonneg_right (by positivity)
  exact ⟨⟨rfl, hspeed, hx⟩, ⟨rfl, h.speed_nonneg, hx⟩⟩

omit [IsStrictOrderedRing K] [FloorSemiring K] in
/-- A trace starts at the initial speed, or at rest if that is negative. -/
theorem jerkRounds_trace_head {n : ℕ} {initialSpeed : K}
    (h : (jerkRounds maxDecel maxJerk dt).EndsAfter n (jerkStart initialSpeed)) :
    ∃ p, ((jerkRounds maxDecel maxJerk dt).trace n (jerkStart initialSpeed)).head? = some p ∧
      p.speedMps = max 0 initialSpeed := by
  have hstart : (jerkStart initialSpeed).v = max 0 initialSpeed := stdMax_eq_max _ _
  cases n with
  | zero =>
      have hrest : ¬ 0 < max 0 initialSpeed := by
        intro hpos
        rw [← hstart] at hpos
        exact ne_true_of_eq_false h (jerkRounds_goesOn.2 hpos)
      exact ⟨_, rfl, le_antisymm (le_max_left _ _) (not_lt.1 hrest)⟩
  | succ n => exact ⟨_, rfl, hstart⟩

/-- For every initial speed, deceleration, jerk and step there is a number of points from
which on every buffer holds one and the same profile, and every smaller one is filled up.
The speeds of the profile start at the initial speed, never increase and end at zero, no
acceleration is positive or exceeds the deceleration, the times are `dt` apart, and the
distances never decrease. -/
theorem generateJerkLimitedStopProfile_capacity (initialSpeed maxDecel maxJerk dt : K)
    (hd : 0 < maxDecel) (hj : 0 < maxJerk) (hdt : 0 < dt) :
    ∃ N points,
      (∀ capacity, N ≤ capacity →
        generateJerkLimitedStopProfile initialSpeed maxDecel maxJerk dt capacity =
          { ok := true, points := points }) ∧
      (∀ capacity, 0 < capacity → capacity < N →
        (generateJerkLimitedStopProfile initialSpeed maxDecel maxJerk dt
            capacity).ok = false ∧
          (generateJerkLimitedStopProfile initialSpeed maxDecel maxJerk dt
            capacity).points.length = capacity) ∧
      (∃ p, points.head? = some p ∧ p.speedMps = max 0 initialSpeed) ∧
      points.IsChain (Follows dt) ∧
      (∃ p, points.getLast? = some p ∧ p.speedMps = 0) ∧
      ∀ p ∈ points, -maxDecel ≤ p.accelMps2 ∧ p.accelMps2 ≤ 0 := by
  have hstart := decelerating_start hd.le initialSpeed
  have hnext (s : JerkState K) (h : Decelerating maxDecel s)
      (_ : (jerkRounds maxDecel maxJerk dt).goesOn s = true) :
      Decelerating maxDecel ((jerkRounds maxDecel maxJerk dt).next s) :=
    h.next hd.le hj.le hdt.le
  obtain ⟨n, hends⟩ := jerkRounds_exists_endsAfter hd hj hdt hstart
  refine ⟨n + 1, (jerkRounds maxDecel maxJerk dt).trace n (jerkStart initialSpeed),
    fun capacity hroom => ?_, fun capacity _ hfew => ?_, jerkRounds_trace_head hends, ?_, ?_,
    ?_⟩
  · rw [generateJerkLimitedStopProfile_eq_fill initialSpeed hd hj hdt,
      BufferedLoop.fill_eq hends, if_pos (Nat.lt_of_succ_le hroom)]
  · rw [generateJerkLimitedStopProfile_eq_fill initialSpeed hd hj hdt,
      BufferedLoop.fill_eq hends, if_neg (by omega)]
    refine ⟨rfl, ?_⟩
    rw [List.length_take, BufferedLoop.length_trace]
    omega
  · exact hends.isChain_trace hnext (fun s h _ _ => (h.follows hd.le hj.le hdt.le).1)
      (fun s h _ _ => (h.follows hd.le hj.le hdt.le).2) hstart
  · exact ⟨_, BufferedLoop.getLast?_trace n _, rfl⟩
  · refine hends.forall_mem_trace hnext (fun s h _ => ?_) (fun s _ _ => ?_) hstart
    · exact ⟨(h.next hd.le hj.le hdt.le).le_accel, (h.next hd.le hj.le hdt.le).accel_le⟩
    · exact ⟨neg_nonpos.2 hd.le, le_rfl⟩

end Measure

end Field

/-- A stop from 1 m/s whose ramp reaches the deceleration in the second step. -/
theorem generateJerkLimitedStopProfile_capacity_rat :
    ∃ N points,
      (∀ capacity, N ≤ capacity →
        generateJerkLimitedStopProfile (1 : ℚ) 2 10 (1 / 10) capacity =
          { ok := true, points := points }) ∧
      (∀ capacity, 0 < capacity → capacity < N →
        (generateJerkLimitedStopProfile (1 : ℚ) 2 10 (1 / 10) capacity).ok = false ∧
          (generateJerkLimitedStopProfile (1 : ℚ) 2 10 (1 / 10) capacity).points.length =
            capacity) ∧
      (∃ p, points.head? = some p ∧ p.speedMps = 1) ∧
      points.IsChain (Follows (1 / 10)) ∧
      (∃ p, points.getLast? = some p ∧ p.speedMps = 0) ∧
      ∀ p ∈ points, -2 ≤ p.accelMps2 ∧ p.accelMps2 ≤ 0 := by
  have hprofile := generateJerkLimitedStopProfile_capacity (1 : ℚ) 2 10 (1 / 10) (by norm_num)
    (by norm_num) (by norm_num)
  rwa [max_eq_right zero_le_one] at hprofile

end Motion

end SafetyCore
