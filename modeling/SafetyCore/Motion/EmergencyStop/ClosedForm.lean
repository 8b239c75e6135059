import Mathlib.Algebra.Order.Floor.Semifield
import Mathlib.Data.Rat.Floor
import Mathlib.Tactic.FieldSimp
import Mathlib.Tactic.Linarith
import Mathlib.Tactic.Ring
import SafetyCore.Motion.EmergencyStop
import SafetyCore.Transition.BufferedLoop

/-!
# The emergency stop in closed form

In exact arithmetic every round of the loop but the last takes the full step `maxDecel * dt`
off the speed, so the speed after `i` rounds is known, and so is the number of rounds. A
full step travels exactly what it takes off the braking distance. The last one starts from a
speed `w` of at most a full step and travels up to `maxDecel * dt * dt / 8` too far, the most
where `w` is half a step.
-/

namespace SafetyCore

open Arithmetic Transition

namespace Motion

section Rounds

variable {α : Type*} [Zero α] [Add α] [Sub α] [Mul α] [Div α] [OfScientific α]
  [LT α] [DecidableLT α]

/-- The variables of the loop. -/
structure EmergencyState (α : Type*) where
  t : α
  v : α
  x : α

/-- The loop of the generator without its buffer. -/
def emergencyRounds (maxDecel dt : α) : BufferedLoop (EmergencyState α) (TrajectoryPoint α) where
  goesOn s := s.v > 0
  next s :=
    let nextV := stdMax 0 (s.v - maxDecel * dt)
    { t := s.t + dt
      v := nextV
      x := s.x + ((s.v + nextV) * 0.5) * dt }
  emit s := ⟨s.t, s.v, (stdMax 0 (s.v - maxDecel * dt) - s.v) / dt, 0, s.x⟩
  final s := ⟨s.t, 0, 0, 0, s.x⟩

theorem emergencyLoop_eq_fill (maxDecel dt : α) (capacity : ℕ) (t v x : α) :
    emergencyLoop maxDecel dt capacity t v x =
      { ok := ((emergencyRounds maxDecel dt).fill capacity ⟨t, v, x⟩).1
        points := ((emergencyRounds maxDecel dt).fill capacity ⟨t, v, x⟩).2 } := by
  induction capacity generalizing t v x with
  | zero => rfl
  | succ capacity ih =>
      rw [emergencyLoop, BufferedLoop.fill]
      by_cases hv : v > 0
      · have hgo : (emergencyRounds maxDecel dt).goesOn ⟨t, v, x⟩ = true := decide_eq_true hv
        rw [if_pos hv, if_pos hgo]
        dsimp only
        rw [ih]
        rfl
      · have hgo : ¬ (emergencyRounds maxDecel dt).goesOn ⟨t, v, x⟩ = true :=
          fun h => hv (of_decide_eq_true h)
        rw [if_neg hv, if_neg hgo]
        rfl

end Rounds

section Field

variable {K : Type*} [Field K] [LinearOrder K] [IsStrictOrderedRing K] {maxDecel dt : K}
  {s : EmergencyState K}

/-! ## The states of the loop -/

omit [IsStrictOrderedRing K] in
theorem emergencyRounds_goesOn :
    (emergencyRounds maxDecel dt).goesOn s = true ↔ 0 < s.v :=
  decide_eq_true_iff

omit [IsStrictOrderedRing K] in
theorem emergencyRounds_next_v :
    ((emergencyRounds maxDecel dt).next s).v = max 0 (s.v - maxDecel * dt) :=
  stdMax_eq_max _ _

theorem emergencyRounds_next_x :
    ((emergencyRounds maxDecel dt).next s).x =
      s.x + (s.v + max 0 (s.v - maxDecel * dt)) / 2 * dt := by
  have hhalf : (0.5 : K) = 1 / 2 := by norm_num
  rw [← stdMax_eq_max, ← mul_one_div, ← hhalf]
  rfl

omit [IsStrictOrderedRing K] in
theorem emergencyRounds_iterate_t (maxDecel dt : K) (s : EmergencyState K) (i : ℕ) :
    ((emergencyRounds maxDecel dt).next^[i] s).t = s.t + i * dt := by
  induction i with
  | zero => simp
  | succ i ih =>
      rw [Function.iterate_succ_apply', Nat.cast_succ, add_mul, one_mul, ← add_assoc, ← ih]
      rfl

theorem emergencyRounds_iterate_v (hstep : 0 ≤ maxDecel * dt) (hv : 0 ≤ s.v) (i : ℕ) :
    ((emergencyRounds maxDecel dt).next^[i] s).v = max 0 (s.v - i * (maxDecel * dt)) := by
  induction i with
  | zero => simp [hv]
  | succ i ih =>
      rw [Function.iterate_succ_apply', emergencyRounds_next_v, ih, Nat.cast_succ]
      rcases le_total (s.v - i * (maxDecel * dt)) 0 with hrest | hmoving
      · rw [max_eq_left hrest, max_eq_left (by linarith), max_eq_left (by linarith)]
      · rw [max_eq_right hmoving]
        congr 1
        ring

/-- Full steps travel what they take off the braking distance. -/
theorem emergencyRounds_iterate_x (hd : 0 < maxDecel) (hdt : 0 < dt) (hv : 0 ≤ s.v) {i : ℕ}
    (hi : i * (maxDecel * dt) ≤ s.v) :
    ((emergencyRounds maxDecel dt).next^[i] s).x =
      s.x + (s.v ^ 2 - (s.v - i * (maxDecel * dt)) ^ 2) / (2 * maxDecel) := by
  have hstep := mul_pos hd hdt
  induction i with
  | zero => simp
  | succ i ih =>
      rw [Nat.cast_succ] at hi ⊢
      have hbefore : i * (maxDecel * dt) ≤ s.v := by linarith
      rw [Function.iterate_succ_apply', emergencyRounds_next_x, ih hbefore,
        emergencyRounds_iterate_v hstep.le hv, max_eq_right (by linarith),
        max_eq_right (by linarith)]
      field_simp
      ring

theorem emergencyRounds_accel_mem (hd : 0 ≤ maxDecel) (hdt : 0 < dt) (hv : 0 ≤ s.v) :
    -maxDecel ≤ ((emergencyRounds maxDecel dt).emit s).accelMps2 ∧
      ((emergencyRounds maxDecel dt).emit s).accelMps2 ≤ 0 := by
  have hstep : 0 ≤ maxDecel * dt := mul_nonneg hd hdt.le
  have hlo : s.v - maxDecel * dt ≤ max 0 (s.v - maxDecel * dt) := le_max_right _ _
  have hhi : max 0 (s.v - maxDecel * dt) ≤ s.v := max_le hv (by linarith)
  simp only [emergencyRounds, stdMax_eq_max]
  rw [le_div_iff₀ hdt, div_le_iff₀ hdt]
  constructor <;> linarith

/-! ## The end of the loop -/

/-- The last round travels `w * (maxDecel * dt - w) / (2 * maxDecel)` more than the braking
distance from its speed `w`. -/
theorem emergencyRounds_end_x (hd : 0 < maxDecel) (hdt : 0 < dt) (hv : 0 ≤ s.v) {n : ℕ}
    (h : (emergencyRounds maxDecel dt).EndsAfter n s) :
    ∃ w, 0 ≤ w ∧ w ≤ maxDecel * dt ∧ w ≤ s.v ∧
      ((emergencyRounds maxDecel dt).next^[n] s).x =
        s.x + s.v ^ 2 / (2 * maxDecel) + w * (maxDecel * dt - w) / (2 * maxDecel) := by
  have hstep := mul_pos hd hdt
  obtain ⟨hmoving, hrest⟩ := BufferedLoop.endsAfter_iff.1 h
  have hiter := emergencyRounds_iterate_v hstep.le hv
  have hgo (i : ℕ) : (emergencyRounds maxDecel dt).goesOn
      ((emergencyRounds maxDecel dt).next^[i] s) = true ↔ 0 < s.v - i * (maxDecel * dt) := by
    rw [emergencyRounds_goesOn, hiter, lt_max_iff, or_iff_right (lt_irrefl _)]
  cases n with
  | zero =>
      have hzero : s.v = 0 := by
        have hnot := mt (hgo 0).2 (by rw [hrest]; decide)
        rw [Nat.cast_zero, zero_mul, sub_zero] at hnot
        exact le_antisymm (not_lt.1 hnot) hv
      exact ⟨0, le_rfl, hstep.le, hv, by simp [hzero]⟩
  | succ m =>
      have hlast : 0 < s.v - m * (maxDecel * dt) := (hgo m).1 (hmoving m m.lt_succ_self)
      have hend : s.v - (m + 1 : ℕ) * (maxDecel * dt) ≤ 0 :=
        not_lt.1 (mt (hgo (m + 1)).2 (by rw [hrest]; decide))
      rw [Nat.cast_succ] at hend
      have htravelled : 0 ≤ m * (maxDecel * dt) := by positivity
      refine ⟨s.v - m * (maxDecel * dt), hlast.le, by linarith, by linarith, ?_⟩
      rw [Function.iterate_succ_apply', emergencyRounds_next_x,
        emergencyRounds_iterate_x hd hdt hv (by linarith), hiter, max_eq_right hlast.le,
        max_eq_left (by linarith)]
      field_simp
      ring

/-- The excess is largest where the last round starts from half a step. -/
theorem emergencyRounds_end_mem (hd : 0 < maxDecel) (hdt : 0 < dt) (hv : 0 ≤ s.v) {n : ℕ}
    (h : (emergencyRounds maxDecel dt).EndsAfter n s) :
    s.x + s.v ^ 2 / (2 * maxDecel) ≤ ((emergencyRounds maxDecel dt).next^[n] s).x ∧
      ((emergencyRounds maxDecel dt).next^[n] s).x ≤
        s.x + s.v ^ 2 / (2 * maxDecel) + maxDecel * dt * dt / 8 := by
  obtain ⟨w, hw, hwstep, -, hx⟩ := emergencyRounds_end_x hd hdt hv h
  have hexcess : w * (maxDecel * dt - w) / (2 * maxDecel) ≤ maxDecel * dt * dt / 8 := by
    have hsquare : 0 ≤ (maxDecel * dt - 2 * w) ^ 2 := sq_nonneg _
    rw [div_le_div_iff₀ (by positivity) (by norm_num)]
    linarith
  have hnonneg : 0 ≤ w * (maxDecel * dt - w) / (2 * maxDecel) := by
    have := sub_nonneg.2 hwstep
    positivity
  rw [hx]
  constructor <;> linarith

omit [IsStrictOrderedRing K] in
/-- Positive inputs are accepted; without room for a point the loop fails as the check does. -/
theorem generateEmergencyStopProfile_eq_fill (initialSpeed : K) (hd : 0 < maxDecel)
    (hdt : 0 < dt) (capacity : ℕ) :
    generateEmergencyStopProfile initialSpeed maxDecel dt capacity =
      { ok := ((emergencyRounds maxDecel dt).fill capacity ⟨0, max 0 initialSpeed, 0⟩).1
        points :=
          ((emergencyRounds maxDecel dt).fill capacity ⟨0, max 0 initialSpeed, 0⟩).2 } := by
  rw [← emergencyLoop_eq_fill, ← stdMax_eq_max, generateEmergencyStopProfile]
  cases capacity with
  | zero => rfl
  | succ capacity => simp [isFinite, hd, hdt]

omit [IsStrictOrderedRing K] in
/-- A generated profile is the trace of the loop from the initial speed. -/
theorem generateEmergencyStopProfile_of_ok {initialSpeed : K} {capacity : ℕ}
    (hok : (generateEmergencyStopProfile initialSpeed maxDecel dt capacity).ok = true) :
    0 < maxDecel ∧ 0 < dt ∧ ∃ n < capacity,
      (emergencyRounds maxDecel dt).EndsAfter n ⟨0, max 0 initialSpeed, 0⟩ ∧
      (generateEmergencyStopProfile initialSpeed maxDecel dt capacity).points =
        (emergencyRounds maxDecel dt).trace n ⟨0, max 0 initialSpeed, 0⟩ := by
  have hinputs : 0 < maxDecel ∧ 0 < dt := by
    unfold generateEmergencyStopProfile at hok
    split at hok
    case isTrue => cases hok
    case isFalse hvalid =>
      simp only [Bool.or_eq_true, decide_eq_true_eq, not_or, not_le] at hvalid
      exact ⟨hvalid.2, hvalid.1.2⟩
  obtain ⟨hd, hdt⟩ := hinputs
  rw [generateEmergencyStopProfile_eq_fill initialSpeed hd hdt] at hok ⊢
  obtain ⟨n, hn, hends, hfill⟩ := BufferedLoop.exists_endsAfter_of_fill hok
  exact ⟨hd, hdt, n, hn, hends, by rw [hfill]⟩

/-! ## The closed form -/

/-- The point after `k` full steps from the speed `v`. -/
structure ClosedFormPoint (v maxDecel dt : K) (k : ℕ) (p : TrajectoryPoint K) : Prop where
  time : p.tS = k * dt
  speed : p.speedMps = max 0 (v - k * maxDecel * dt)
  le_accel : -maxDecel ≤ p.accelMps2
  accel_le : p.accelMps2 ≤ 0

theorem closedFormPoint_of_le {v : K} (hd : 0 < maxDecel) (hdt : 0 < dt) {n k : ℕ}
    (h : (emergencyRounds maxDecel dt).EndsAfter n ⟨0, max 0 v, 0⟩) (hk : k ≤ n) :
    ∃ p, ((emergencyRounds maxDecel dt).trace n ⟨0, max 0 v, 0⟩)[k]? = some p ∧
      ClosedFormPoint v maxDecel dt k p := by
  have hv : 0 ≤ max 0 v := le_max_left 0 v
  have hstep := mul_pos hd hdt
  have htime := emergencyRounds_iterate_t maxDecel dt ⟨0, max 0 v, 0⟩ k
  have hspeed := emergencyRounds_iterate_v (s := ⟨0, max 0 v, 0⟩) hstep.le hv k
  have hclosed : max 0 (max 0 v - k * (maxDecel * dt)) = max 0 (v - k * maxDecel * dt) := by
    have htravelled : 0 ≤ k * (maxDecel * dt) := by positivity
    rw [mul_assoc]
    rcases le_total v 0 with hneg | hpos
    · rw [max_eq_left hneg, max_eq_left (by linarith), max_eq_left (by linarith)]
    · rw [max_eq_right hpos]
  rw [zero_add] at htime
  rw [hclosed] at hspeed
  rcases hk.eq_or_lt with rfl | hlt
  · refine ⟨_, BufferedLoop.getElem?_trace_self k _, htime, ?_, neg_nonpos.2 hd.le, le_rfl⟩
    have hend := (BufferedLoop.endsAfter_iff.1 h).2
    rw [Bool.eq_false_iff, Ne, emergencyRounds_goesOn, hspeed, not_lt] at hend
    exact (le_antisymm hend (le_max_left _ _)).symm
  · have haccel := emergencyRounds_accel_mem hd.le hdt
      (s := (emergencyRounds maxDecel dt).next^[k] ⟨0, max 0 v, 0⟩) (by
        rw [hspeed]
        exact le_max_left _ _)
    exact ⟨_, BufferedLoop.getElem?_trace_of_lt _ hlt, htime, hspeed, haccel.1, haccel.2⟩

variable [FloorSemiring K]

/-- The number of steps in the speed, rounded up. -/
def emergencySteps (v maxDecel dt : K) : ℕ := ⌈max 0 v / (maxDecel * dt)⌉₊

/-- The loop ends after as many rounds as there are steps in the speed, rounded up. -/
theorem emergencyRounds_endsAfter (v : K) (hd : 0 < maxDecel) (hdt : 0 < dt) :
    (emergencyRounds maxDecel dt).EndsAfter (emergencySteps v maxDecel dt)
      ⟨0, max 0 v, 0⟩ := by
  have hstep := mul_pos hd hdt
  have hiter := emergencyRounds_iterate_v (s := ⟨0, max 0 v, 0⟩) hstep.le (le_max_left 0 v)
  refine BufferedLoop.endsAfter_iff.2 ⟨fun i hi => ?_, ?_⟩
  · rw [emergencyRounds_goesOn, hiter]
    have hlt := (lt_div_iff₀ hstep).1 (Nat.lt_ceil.1 hi)
    exact lt_max_of_lt_right (sub_pos.2 hlt)
  · rw [Bool.eq_false_iff, Ne, emergencyRounds_goesOn, hiter, not_lt]
    have hle := (div_le_iff₀ hstep).1 (Nat.le_ceil (max 0 v / (maxDecel * dt)))
    exact max_le le_rfl (sub_nonpos.2 hle)

/-- For every initial speed, deceleration and step: with `n` the number of steps in the speed,
rounded up, the profile needs room for `n + 1` points; it is given by the closed form and
ends beyond the braking distance, but by no more than an eighth of `maxDecel * dt * dt`; and
a smaller buffer holds the beginning of it. -/
theorem generateEmergencyStopProfile_closedForm (v maxDecel dt : K) (capacity : ℕ)
    (hd : 0 < maxDecel) (hdt : 0 < dt) :
    ((generateEmergencyStopProfile v maxDecel dt capacity).ok = true ↔
        emergencySteps v maxDecel dt + 1 ≤ capacity) ∧
      (emergencySteps v maxDecel dt + 1 ≤ capacity →
        (generateEmergencyStopProfile v maxDecel dt capacity).points.length =
            emergencySteps v maxDecel dt + 1 ∧
          (∀ k ≤ emergencySteps v maxDecel dt,
            ∃ p, (generateEmergencyStopProfile v maxDecel dt capacity).points[k]? = some p ∧
              ClosedFormPoint v maxDecel dt k p) ∧
          ∃ p, (generateEmergencyStopProfile v maxDecel dt capacity).points.getLast? =
              some p ∧ p.speedMps = 0 ∧
            max 0 v * max 0 v / (2 * maxDecel) ≤ p.distanceM ∧
            p.distanceM ≤ max 0 v * max 0 v / (2 * maxDecel) + maxDecel * dt * dt / 8) ∧
      (capacity < emergencySteps v maxDecel dt + 1 →
        (generateEmergencyStopProfile v maxDecel dt capacity).ok = false ∧
          (generateEmergencyStopProfile v maxDecel dt capacity).points.length = capacity ∧
          (generateEmergencyStopProfile v maxDecel dt capacity).points <+:
            (generateEmergencyStopProfile v maxDecel dt
              (emergencySteps v maxDecel dt + 1)).points) := by
  have hends := emergencyRounds_endsAfter v hd hdt
  have hclosed (k : ℕ) (hk : k ≤ emergencySteps v maxDecel dt) :=
    closedFormPoint_of_le hd hdt hends hk
  have hdistance := emergencyRounds_end_mem hd hdt (le_max_left 0 v) hends
  rw [zero_add, sq] at hdistance
  have hprofile := generateEmergencyStopProfile_eq_fill v hd hdt capacity
  have hwhole := generateEmergencyStopProfile_eq_fill v hd hdt
    (emergencySteps v maxDecel dt + 1)
  rw [BufferedLoop.fill_eq hends] at hprofile
  rw [BufferedLoop.fill_eq hends, if_pos (Nat.lt_succ_self _)] at hwhole
  generalize emergencySteps v maxDecel dt = n at hends hclosed hdistance hprofile hwhole ⊢
  rw [hwhole, hprofile]
  by_cases hlt : n < capacity
  · rw [if_pos hlt]
    exact ⟨⟨fun _ => hlt, fun _ => rfl⟩, fun _ => ⟨BufferedLoop.length_trace n _, hclosed, _,
      BufferedLoop.getLast?_trace n _, rfl, hdistance⟩, fun h => absurd hlt (by omega)⟩
  · rw [if_neg hlt]
    refine ⟨⟨nofun, fun h => absurd h (by omega)⟩, fun h => absurd h (by omega),
      fun hfew => ⟨rfl, ?_, List.take_prefix _ _⟩⟩
    rw [List.length_take, BufferedLoop.length_trace]
    omega

end Field

/-- A stop from 1 m/s in steps of 0.4 m/s. -/
theorem generateEmergencyStopProfile_closedForm_rat :
    ((generateEmergencyStopProfile (1 : ℚ) 4 (1 / 10) 8).ok = true ↔
        emergencySteps (1 : ℚ) 4 (1 / 10) + 1 ≤ 8) ∧
      ((generateEmergencyStopProfile (1 : ℚ) 4 (1 / 10) 8).points.length =
          emergencySteps (1 : ℚ) 4 (1 / 10) + 1 ∧
        (∀ k ≤ emergencySteps (1 : ℚ) 4 (1 / 10),
          ∃ p, (generateEmergencyStopProfile (1 : ℚ) 4 (1 / 10) 8).points[k]? = some p ∧
            ClosedFormPoint 1 4 (1 / 10) k p) ∧
        ∃ p, (generateEmergencyStopProfile (1 : ℚ) 4 (1 / 10) 8).points.getLast? = some p ∧
          p.speedMps = 0 ∧ max 0 1 * max 0 1 / (2 * 4) ≤ p.distanceM ∧
          p.distanceM ≤ max 0 1 * max 0 1 / (2 * 4) + 4 * (1 / 10) * (1 / 10) / 8) ∧
      (generateEmergencyStopProfile (1 : ℚ) 4 (1 / 10) 2).ok = false ∧
        (generateEmergencyStopProfile (1 : ℚ) 4 (1 / 10) 2).points.length = 2 ∧
        (generateEmergencyStopProfile (1 : ℚ) 4 (1 / 10) 2).points <+:
          (generateEmergencyStopProfile (1 : ℚ) 4 (1 / 10)
            (emergencySteps (1 : ℚ) 4 (1 / 10) + 1)).points := by
  have hsteps : emergencySteps (1 : ℚ) 4 (1 / 10) = 3 := by
    rw [emergencySteps, Nat.ceil_eq_iff (by norm_num)]
    norm_num
  obtain ⟨hok, hfits, -⟩ := generateEmergencyStopProfile_closedForm (1 : ℚ) 4 (1 / 10) 8
    (by norm_num) (by norm_num)
  obtain ⟨-, -, hcut⟩ := generateEmergencyStopProfile_closedForm (1 : ℚ) 4 (1 / 10) 2
    (by norm_num) (by norm_num)
  exact ⟨hok, hfits (by rw [hsteps]; norm_num), hcut (by rw [hsteps]; norm_num)⟩

end Motion

end SafetyCore
