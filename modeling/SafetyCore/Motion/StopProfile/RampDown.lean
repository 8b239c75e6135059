import SafetyCore.Motion.StopProfile.Rounds

/-!
# Ramping down

Every round of the loop changes the acceleration by at most `maxJerk * dt`, but the point at
rest that is written after the loop has none at all. So the jerk is bounded exactly if the
loop ends with an acceleration of at most one step of the ramp.

The loop ramps down only from the full deceleration. The round after a step down finds less
than that and ramps up again, so that near the end the deceleration goes down by one step and
up again in turn, and never reaches zero from more than two steps.
-/

namespace SafetyCore

open Arithmetic Transition

namespace Motion

variable {K : Type*} [Field K] [LinearOrder K]

/-- No two neighbouring accelerations, from zero on, are further apart than the jerk allows
in one step. -/
def JerkBounded (maxJerk dt : K) (points : List (TrajectoryPoint K)) : Prop :=
  (0 :: points.map TrajectoryPoint.accelMps2).IsChain fun a b => |b - a| ≤ maxJerk * dt

/-- At the speed `v` the loop holds the full deceleration. -/
def Holds (maxDecel maxJerk v : K) : Prop :=
  1e-9 < maxDecel ∧ maxDecel / maxJerk < v / maxDecel

/-- From the speed `v` at the full deceleration: after some rounds that hold it, and some
pairs of a step down and a step up, a step down brings the vehicle to rest. -/
def RampsOut (maxDecel maxJerk dt v : K) : Prop :=
  ∃ m k : ℕ, (∀ i < m, Holds maxDecel maxJerk (v - i * (maxDecel * dt))) ∧
    ¬ Holds maxDecel maxJerk (v - m * (maxDecel * dt)) ∧
    0 < v - m * (maxDecel * dt) - k * ((maxDecel + (maxDecel - maxJerk * dt)) * dt) ∧
    v - m * (maxDecel * dt) - k * ((maxDecel + (maxDecel - maxJerk * dt)) * dt) ≤
      (maxDecel - maxJerk * dt) * dt

variable [IsStrictOrderedRing K] {maxDecel maxJerk dt : K} {s : JerkState K}

/-! ## One round -/

theorem Holds.mono {v w : K} (h : Holds maxDecel maxJerk v) (hd : 0 < maxDecel)
    (hle : v ≤ w) : Holds maxDecel maxJerk w :=
  ⟨h.1, h.2.trans_le (div_le_div_of_nonneg_right hle hd.le)⟩

theorem jerkPhase_of_holds (dt : K) {v : K} (hd : 0 < maxDecel) (h : Holds maxDecel maxJerk v) :
    (jerkPhase maxDecel maxJerk dt v (-maxDecel)).1 = -maxDecel := by
  have habs : stdAbs (-maxDecel) = maxDecel := by simp [stdAbs, hd]
  unfold jerkPhase
  simp only [gt_iff_lt, lt_self_iff_false, if_false, habs]
  rw [if_pos h.1, if_neg (not_le.2 h.2)]

theorem jerkPhase_of_not_holds (dt : K) {v : K} (hd : 0 < maxDecel) (hj : 0 < maxJerk)
    (h : ¬ Holds maxDecel maxJerk v) :
    (jerkPhase maxDecel maxJerk dt v (-maxDecel)).1 = min (-maxDecel + maxJerk * dt) 0 := by
  have habs : stdAbs (-maxDecel) = maxDecel := by simp [stdAbs, hd]
  have hdown : (if 1e-9 < maxDecel then v / maxDecel else 0) ≤ maxDecel / maxJerk := by
    split
    · exact not_lt.1 fun hlt => h ⟨‹_›, hlt⟩
    · positivity
  unfold jerkPhase
  simp only [gt_iff_lt, lt_self_iff_false, if_false, habs]
  rw [if_pos hdown]
  by_cases hover : 0 < -maxDecel + maxJerk * dt
  · rw [if_pos hover, min_eq_right hover.le]
  · rw [if_neg hover, min_eq_left (not_lt.1 hover)]

/-- A round changes the acceleration by at most one step of the ramp. -/
theorem Decelerating.abs_next_a_sub_le (h : Decelerating maxDecel s) (hd : 0 < maxDecel)
    (hj : 0 < maxJerk) (hdt : 0 < dt) :
    |((jerkRounds maxDecel maxJerk dt).next s).a - s.a| ≤ maxJerk * dt := by
  have hstep := mul_pos hj hdt
  have hlo := h.le_accel
  rw [abs_le]
  rcases h.le_accel.eq_or_lt with hfull | hramp
  · rcases jerkRounds_next_of_full maxJerk dt hd hfull.symm with hhold | hdown
    · rw [hhold, ← hfull, sub_self]
      exact ⟨neg_nonpos.2 hstep.le, hstep.le⟩
    · have hup : -maxDecel ≤ min (-maxDecel + maxJerk * dt) 0 :=
        le_min (by linarith) (by linarith)
      have hone := min_le_left (-maxDecel + maxJerk * dt) 0
      rw [hdown, ← hfull]
      constructor <;> linarith
  · have hone := le_max_left (s.a - maxJerk * dt) (-maxDecel)
    have hdown : max (s.a - maxJerk * dt) (-maxDecel) ≤ s.a := max_le (by linarith) hlo
    rw [jerkRounds_next_a, jerkPhase_of_lt maxJerk dt s.v hramp]
    constructor <;> linarith

/-- Only the point at rest can be too far from its neighbour. -/
theorem Decelerating.isChain_accel_iff (h : Decelerating maxDecel s) (hd : 0 < maxDecel)
    (hj : 0 < maxJerk) (hdt : 0 < dt) (n : ℕ) :
    (s.a :: ((jerkRounds maxDecel maxJerk dt).trace n s).map
        TrajectoryPoint.accelMps2).IsChain (fun a b => |b - a| ≤ maxJerk * dt) ↔
      -(maxJerk * dt) ≤ ((jerkRounds maxDecel maxJerk dt).next^[n] s).a := by
  induction n generalizing s with
  | zero =>
      have hrest : |0 - s.a| = -s.a := by rw [zero_sub, abs_neg, abs_of_nonpos h.accel_le]
      simp only [BufferedLoop.trace, List.map_cons, List.map_nil, List.isChain_cons_cons,
        List.isChain_singleton, and_true, Function.iterate_zero_apply]
      change |0 - s.a| ≤ _ ↔ _
      rw [hrest, neg_le]
  | succ n ih =>
      rw [BufferedLoop.trace, List.map_cons, List.isChain_cons_cons,
        Function.iterate_succ_apply, ← ih (h.next hd.le hj.le hdt.le)]
      exact and_iff_right (h.abs_next_a_sub_le hd hj hdt)

/-! ## The speeds from which the ramp ends the stop -/

theorem not_rampsOut_of_nonpos (hd : 0 < maxDecel) (hdt : 0 < dt)
    (hstep : maxJerk * dt ≤ maxDecel) {v : K} (hv : v ≤ 0) :
    ¬ RampsOut maxDecel maxJerk dt v := by
  rintro ⟨m, k, -, -, hpos, -⟩
  have hheld : 0 ≤ m * (maxDecel * dt) := by positivity
  have hpairs : 0 ≤ k * ((maxDecel + (maxDecel - maxJerk * dt)) * dt) := by
    have := sub_nonneg.2 hstep
    positivity
  linarith

theorem rampsOut_max (hd : 0 < maxDecel) (hdt : 0 < dt)
    (hstep : maxJerk * dt ≤ maxDecel) (v : K) :
    RampsOut maxDecel maxJerk dt (max 0 v) ↔ RampsOut maxDecel maxJerk dt v := by
  rcases le_total v 0 with hneg | hpos
  · rw [max_eq_left hneg]
    exact iff_of_false (not_rampsOut_of_nonpos hd hdt hstep le_rfl)
      (not_rampsOut_of_nonpos hd hdt hstep hneg)
  · rw [max_eq_right hpos]

omit [IsStrictOrderedRing K] in
theorem rampsOut_of_holds {v : K} (h : Holds maxDecel maxJerk v) :
    RampsOut maxDecel maxJerk dt v ↔ RampsOut maxDecel maxJerk dt (v - maxDecel * dt) := by
  have hshift (i : ℕ) :
      v - (i + 1 : ℕ) * (maxDecel * dt) = v - maxDecel * dt - i * (maxDecel * dt) := by
    rw [Nat.cast_succ]
    ring
  constructor
  · rintro ⟨m, k, hheld, hnot, hend⟩
    cases m with
    | zero => exact absurd h (by simpa using hnot)
    | succ m =>
        rw [hshift] at hnot hend
        exact ⟨m, k, fun i hi => hshift i ▸ hheld (i + 1) (Nat.succ_lt_succ hi), hnot, hend⟩
  · rintro ⟨m, k, hheld, hnot, hend⟩
    rw [← hshift] at hnot hend
    refine ⟨m + 1, k, fun i hi => ?_, hnot, hend⟩
    cases i with
    | zero => simpa using h
    | succ i => exact hshift i ▸ hheld i (Nat.lt_of_succ_lt_succ hi)

theorem rampsOut_of_not_holds (hd : 0 < maxDecel) (hdt : 0 < dt)
    (hstep : maxJerk * dt ≤ maxDecel) {v : K} (h : ¬ Holds maxDecel maxJerk v) :
    RampsOut maxDecel maxJerk dt v ↔
      0 < v ∧ v ≤ (maxDecel - maxJerk * dt) * dt ∨
        RampsOut maxDecel maxJerk dt (v - (maxDecel + (maxDecel - maxJerk * dt)) * dt) := by
  have hpair : 0 ≤ (maxDecel + (maxDecel - maxJerk * dt)) * dt := by
    have := sub_nonneg.2 hstep
    positivity
  have hshift (k : ℕ) : v - (k + 1 : ℕ) * ((maxDecel + (maxDecel - maxJerk * dt)) * dt) =
      v - (maxDecel + (maxDecel - maxJerk * dt)) * dt -
        k * ((maxDecel + (maxDecel - maxJerk * dt)) * dt) := by
    rw [Nat.cast_succ]
    ring
  -- Below a speed at which the deceleration is not held, it is held nowhere.
  have hslower : ¬ Holds maxDecel maxJerk (v - (maxDecel + (maxDecel - maxJerk * dt)) * dt) :=
    fun hheld => h (hheld.mono hd (sub_le_self v hpair))
  have hzero {w : K} {m : ℕ} (hw : ¬ Holds maxDecel maxJerk w)
      (hheld : ∀ i < m, Holds maxDecel maxJerk (w - i * (maxDecel * dt))) : m = 0 := by
    by_contra hm
    exact hw (by simpa using hheld 0 (Nat.pos_of_ne_zero hm))
  constructor
  · rintro ⟨m, k, hheld, -, hend⟩
    obtain rfl := hzero h hheld
    rw [Nat.cast_zero, zero_mul, sub_zero] at hend
    cases k with
    | zero => exact .inl (by simpa using hend)
    | succ k =>
        rw [hshift] at hend
        exact .inr ⟨0, k, nofun, by simpa using hslower, by simpa using hend⟩
  · rintro (hend | ⟨m, k, hheld, -, hend⟩)
    · exact ⟨0, 0, nofun, by simpa using h, by simpa using hend⟩
    · obtain rfl := hzero hslower hheld
      rw [Nat.cast_zero, zero_mul, sub_zero, ← hshift] at hend
      exact ⟨0, k + 1, nofun, by simpa using h, by simpa using hend⟩

/-! ## The end of the loop -/

/-- The loop ends with at most one step of the ramp. -/
def EndsGently (maxDecel maxJerk dt : K) (s : JerkState K) : Prop :=
  (jerkRounds maxDecel maxJerk dt).EndsIn (fun u => -(maxJerk * dt) ≤ u.a) s

omit [IsStrictOrderedRing K] in
theorem endsGently_of_rest (hv : s.v = 0) :
    EndsGently maxDecel maxJerk dt s ↔ -(maxJerk * dt) ≤ s.a :=
  BufferedLoop.endsIn_of_not_goesOn (Bool.eq_false_iff.2 fun h =>
    (jerkRounds_goesOn.1 h).ne' hv)

omit [IsStrictOrderedRing K] in
theorem endsGently_of_moving (hv : 0 < s.v) :
    EndsGently maxDecel maxJerk dt s ↔
      EndsGently maxDecel maxJerk dt ((jerkRounds maxDecel maxJerk dt).next s) :=
  BufferedLoop.endsIn_of_goesOn (jerkRounds_goesOn.2 hv)

/-- A step of the ramp of more than half of the deceleration, but not all of it. -/
structure CoarseRamp (maxDecel maxJerk dt : K) : Prop where
  decel_pos : 0 < maxDecel
  jerk_pos : 0 < maxJerk
  dt_pos : 0 < dt
  lt_decel : maxJerk * dt < maxDecel
  decel_le : maxDecel ≤ 2 * (maxJerk * dt)

omit [IsStrictOrderedRing K] in
/-- A round that ends with the acceleration `-a`. -/
theorem jerkRounds_next_v_of {a : K}
    (ha : ((jerkRounds maxDecel maxJerk dt).next s).a = -a) :
    ((jerkRounds maxDecel maxJerk dt).next s).v = max 0 (s.v - a * dt) := by
  rw [jerkRounds_next_v, ha, neg_mul, ← sub_eq_add_neg]

theorem CoarseRamp.next_of_not_holds (h : CoarseRamp maxDecel maxJerk dt)
    (hfull : s.a = -maxDecel) (hnot : ¬ Holds maxDecel maxJerk s.v) :
    ((jerkRounds maxDecel maxJerk dt).next s).a = -(maxDecel - maxJerk * dt) := by
  have hlt := h.lt_decel
  rw [jerkRounds_next_a, hfull, jerkPhase_of_not_holds dt h.decel_pos h.jerk_pos hnot,
    min_eq_left (by linarith), neg_sub']
  ring

/-- A step up from there is at the full deceleration again. -/
theorem CoarseRamp.next_of_partial (h : CoarseRamp maxDecel maxJerk dt)
    (ha : s.a = -(maxDecel - maxJerk * dt)) :
    ((jerkRounds maxDecel maxJerk dt).next s).a = -maxDecel := by
  have hstep := mul_pos h.jerk_pos h.dt_pos
  rw [jerkRounds_next_a, ha, jerkPhase_of_lt maxJerk dt s.v (by linarith)]
  exact max_eq_right (by linarith)

/-- From the full deceleration the loop ends with at most one step of the ramp exactly where
it ramps out. -/
theorem endsGently_full (h : CoarseRamp maxDecel maxJerk dt) {n : ℕ}
    (hends : (jerkRounds maxDecel maxJerk dt).EndsAfter n s)
    (hs : Decelerating maxDecel s) (hfull : s.a = -maxDecel) :
    EndsGently maxDecel maxJerk dt s ↔ RampsOut maxDecel maxJerk dt s.v := by
  obtain ⟨hd, hj, hdt, hlt, hle⟩ := id h
  have hmax := rampsOut_max hd hdt hlt.le
  induction n using Nat.strong_induction_on generalizing s with
  | _ n ih =>
      rcases hs.speed_nonneg.eq_or_lt with hrest | hmoving
      · -- At rest, with the full deceleration.
        rw [endsGently_of_rest hrest.symm, hfull]
        exact iff_of_false (by linarith) (not_rampsOut_of_nonpos hd hdt hlt.le hrest.ge)
      have hnext := hs.next hd.le hj.le hdt.le
      obtain ⟨m, hm, hends⟩ := hends.next_of_goesOn (jerkRounds_goesOn.2 hmoving)
      rw [endsGently_of_moving hmoving]
      by_cases hhold : Holds maxDecel maxJerk s.v
      · have haccel : ((jerkRounds maxDecel maxJerk dt).next s).a = -maxDecel := by
          rw [jerkRounds_next_a, hfull, jerkPhase_of_holds dt hd hhold]
        refine (ih m hm hends hnext haccel).trans ?_
        rw [jerkRounds_next_v_of haccel, hmax, rampsOut_of_holds hhold]
      have haccel := h.next_of_not_holds hfull hhold
      have hspeed := jerkRounds_next_v_of haccel
      rw [rampsOut_of_not_holds hd hdt hlt.le hhold]
      rcases le_or_gt s.v ((maxDecel - maxJerk * dt) * dt) with hlast | hmore
      · -- The step down ends the stop.
        rw [max_eq_left (by linarith)] at hspeed
        rw [endsGently_of_rest hspeed, haccel]
        exact iff_of_true (by linarith) (.inl ⟨hmoving, hlast⟩)
      -- The step up after it is at the full deceleration again.
      have hleft : 0 < s.v - (maxDecel - maxJerk * dt) * dt := sub_pos.2 hmore
      rw [max_eq_right hleft.le] at hspeed
      have hmoves := hleft.trans_eq hspeed.symm
      have haccel' := h.next_of_partial haccel
      obtain ⟨k, hk, hends⟩ := hends.next_of_goesOn (jerkRounds_goesOn.2 hmoves)
      have htwo : s.v - (maxDecel - maxJerk * dt) * dt - maxDecel * dt =
          s.v - (maxDecel + (maxDecel - maxJerk * dt)) * dt := by
        ring
      rw [endsGently_of_moving hmoves]
      refine (ih k (hk.trans hm) hends (hnext.next hd.le hj.le hdt.le) haccel').trans ?_
      rw [jerkRounds_next_v_of haccel', hspeed, hmax, htwo]
      exact (or_iff_right fun hlast => not_le.2 hmore hlast.2).symm

/-- With a deceleration of more than two steps of the ramp, the loop never comes back to a
single step once it has made the second. -/
theorem not_endsGently_of_fine (hj : 0 < maxJerk) (hdt : 0 < dt)
    (hfine : 2 * (maxJerk * dt) < maxDecel) {n : ℕ}
    (hends : (jerkRounds maxDecel maxJerk dt).EndsAfter n s) (hs : Decelerating maxDecel s)
    (hmore : s.a < -(maxJerk * dt)) : ¬ EndsGently maxDecel maxJerk dt s := by
  have hstep := mul_pos hj hdt
  have hd : 0 < maxDecel := by linarith
  have hkeeps (u : JerkState K) (hu : Decelerating maxDecel u ∧ u.a < -(maxJerk * dt))
      (_ : (jerkRounds maxDecel maxJerk dt).goesOn u = true) :
      Decelerating maxDecel ((jerkRounds maxDecel maxJerk dt).next u) ∧
        ((jerkRounds maxDecel maxJerk dt).next u).a < -(maxJerk * dt) := by
    refine ⟨hu.1.next hd.le hj.le hdt.le, ?_⟩
    rcases hu.1.le_accel.eq_or_lt with hfull | hramp
    · rcases jerkRounds_next_of_full maxJerk dt hd hfull.symm with hhold | hdown
      · rw [hhold]
        linarith
      · rw [hdown]
        exact (min_le_left _ _).trans_lt (by linarith)
    · have := hu.2
      rw [jerkRounds_next_a, jerkPhase_of_lt maxJerk dt u.v hramp]
      exact max_lt (by linarith) (by linarith)
  have hlast := hends.invariant hkeeps ⟨hs, hmore⟩ le_rfl
  exact fun hgently => not_le.2 hlast.2 (hends.endsIn_iff.1 hgently)

/-- With a deceleration of at most one step of the ramp, the loop always ends so. -/
theorem endsGently_of_le (hd : 0 < maxDecel) (hj : 0 < maxJerk) (hdt : 0 < dt)
    (hcoarse : maxDecel ≤ maxJerk * dt) {n : ℕ}
    (hends : (jerkRounds maxDecel maxJerk dt).EndsAfter n s) (hs : Decelerating maxDecel s) :
    EndsGently maxDecel maxJerk dt s := by
  have hlast := hends.invariant (fun u hu _ => hu.next hd.le hj.le hdt.le) hs le_rfl
  exact hends.endsIn_iff.2 ((neg_le_neg hcoarse).trans hlast.le_accel)

/-! ## The whole profile -/

/-- The first round makes one step of the ramp. -/
theorem jerkRounds_next_start (hd : 0 < maxDecel) (hlt : maxJerk * dt < maxDecel)
    (initialSpeed : K) :
    ((jerkRounds maxDecel maxJerk dt).next (jerkStart initialSpeed)).a =
      -(maxJerk * dt) := by
  have hramp : -maxDecel < (0 : K) := neg_lt_zero.2 hd
  rw [jerkRounds_next_a]
  refine (jerkPhase_of_lt maxJerk dt _ hramp).trans ?_
  rw [zero_sub, max_eq_left (by linarith)]

/-- The second round makes another one, up to the full deceleration. -/
theorem endsGently_one_step (hj : 0 < maxJerk) (hdt : 0 < dt)
    (hlt : maxJerk * dt < maxDecel) {n : ℕ}
    (hends : (jerkRounds maxDecel maxJerk dt).EndsAfter n s) (hs : Decelerating maxDecel s)
    (ha : s.a = -(maxJerk * dt)) (hmoving : 0 < s.v) :
    EndsGently maxDecel maxJerk dt s ↔
      maxDecel ≤ 2 * (maxJerk * dt) ∧
        RampsOut maxDecel maxJerk dt (s.v - maxDecel * dt) := by
  have hstep := mul_pos hj hdt
  have hd : 0 < maxDecel := hstep.trans hlt
  have hnext := hs.next hd.le hj.le hdt.le
  obtain ⟨m, -, hends⟩ := hends.next_of_goesOn (jerkRounds_goesOn.2 hmoving)
  have haccel := jerkPhase_of_lt maxJerk dt s.v ((neg_lt_neg hlt).trans_eq ha.symm)
  rw [← jerkRounds_next_a, ha] at haccel
  rw [endsGently_of_moving hmoving]
  rcases le_or_gt maxDecel (2 * (maxJerk * dt)) with htwo | hfine
  · rw [max_eq_right (by linarith)] at haccel
    rw [and_iff_right htwo, endsGently_full ⟨hd, hj, hdt, hlt, htwo⟩ hends hnext haccel,
      jerkRounds_next_v_of haccel, rampsOut_max hd hdt hlt.le]
  · have hmore : max (-(maxJerk * dt) - maxJerk * dt) (-maxDecel) < -(maxJerk * dt) :=
      max_lt (by linarith) (by linarith)
    exact iff_of_false
      (not_endsGently_of_fine hj hdt hfine hends hnext (haccel.trans_lt hmore))
      fun h => not_le.2 hfine h.1

/-- How the loop ends from the initial speed. -/
theorem endsGently_start_iff (hd : 0 < maxDecel) (hj : 0 < maxJerk) (hdt : 0 < dt)
    (initialSpeed : K) {n : ℕ}
    (hends : (jerkRounds maxDecel maxJerk dt).EndsAfter n (jerkStart initialSpeed)) :
    EndsGently maxDecel maxJerk dt (jerkStart initialSpeed) ↔
      maxDecel ≤ maxJerk * dt ∨ max 0 initialSpeed ≤ maxJerk * dt * dt ∨
        maxDecel ≤ 2 * (maxJerk * dt) ∧
          RampsOut maxDecel maxJerk dt
            (max 0 initialSpeed - maxJerk * dt * dt - maxDecel * dt) := by
  have hstep := mul_pos hj hdt
  have hs := decelerating_start hd.le initialSpeed
  have hstart : (jerkStart initialSpeed).v = max 0 initialSpeed := stdMax_eq_max _ _
  rcases le_or_gt maxDecel (maxJerk * dt) with hcoarse | hlt
  · exact iff_of_true (endsGently_of_le hd hj hdt hcoarse hends hs) (.inl hcoarse)
  rw [or_iff_right (not_le.2 hlt)]
  rcases hs.speed_nonneg.eq_or_lt with hrest | hmoving
  · have hzero : max 0 initialSpeed ≤ maxJerk * dt * dt := by
      rw [← hstart, ← hrest]
      positivity
    rw [endsGently_of_rest hrest.symm]
    exact iff_of_true (neg_nonpos.2 hstep.le) (.inl hzero)
  obtain ⟨m, -, hends⟩ := hends.next_of_goesOn (jerkRounds_goesOn.2 hmoving)
  have haccel := jerkRounds_next_start hd hlt initialSpeed
  have hspeed := jerkRounds_next_v_of haccel
  rw [hstart] at hspeed
  rw [endsGently_of_moving hmoving]
  rcases le_or_gt (max 0 initialSpeed) (maxJerk * dt * dt) with hlast | hmore
  · rw [max_eq_left (sub_nonpos.2 hlast)] at hspeed
    rw [endsGently_of_rest hspeed, haccel]
    exact iff_of_true le_rfl (.inl hlast)
  · have hleft := sub_pos.2 hmore
    rw [max_eq_right hleft.le] at hspeed
    rw [or_iff_right (not_le.2 hmore), ← hspeed]
    exact endsGently_one_step hj hdt hlt hends (hs.next hd.le hj.le hdt.le) haccel
      (hleft.trans_eq hspeed.symm)

/-- For every profile that is generated: neighbouring accelerations, from zero before the
first point to the point at rest, are within one step of the jerk if and only if the
deceleration is at most one step of the ramp, or one step brings the vehicle to rest, or the
deceleration is at most two steps and a step down from the full deceleration brings the
vehicle to rest. -/
theorem generateJerkLimitedStopProfile_jerkBounded_iff {initialSpeed maxDecel maxJerk dt : K}
    {capacity : ℕ}
    (hok : (generateJerkLimitedStopProfile initialSpeed maxDecel maxJerk dt
      capacity).ok = true) :
    JerkBounded maxJerk dt
        (generateJerkLimitedStopProfile initialSpeed maxDecel maxJerk dt capacity).points ↔
      maxDecel ≤ maxJerk * dt ∨ max 0 initialSpeed ≤ maxJerk * dt * dt ∨
        maxDecel ≤ 2 * (maxJerk * dt) ∧
          RampsOut maxDecel maxJerk dt
            (max 0 initialSpeed - maxJerk * dt * dt - maxDecel * dt) := by
  obtain ⟨hin, -⟩ := generateJerkLimitedStopProfile_of_ok hok
  have hd := not_le.1 hin.not_decel_le
  have hj := not_le.1 hin.not_jerk_le
  have hdt := not_le.1 hin.not_dt_le
  obtain ⟨n, -, hends, hpoints⟩ := generateJerkLimitedStopProfile_trace hok
  have hgently : EndsGently maxDecel maxJerk dt (jerkStart initialSpeed) ↔
      -(maxJerk * dt) ≤
        ((jerkRounds maxDecel maxJerk dt).next^[n] (jerkStart initialSpeed)).a :=
    hends.endsIn_iff
  rw [← endsGently_start_iff hd hj hdt initialSpeed hends, hpoints, hgently]
  exact (decelerating_start hd.le initialSpeed).isChain_accel_iff hd hj hdt n

/-- In steps of a quarter of a second, the ramp down ends the stop from 1 m/s. -/
theorem generateJerkLimitedStopProfile_jerkBounded_rat :
    JerkBounded 6 (1 / 4)
      (generateJerkLimitedStopProfile (1 : ℚ) 2 6 (1 / 4) 8).points := by
  have hok : (generateJerkLimitedStopProfile (1 : ℚ) 2 6 (1 / 4) 8).ok = true := by
    decide +kernel
  have hramps : RampsOut (2 : ℚ) 6 (1 / 4) (max 0 1 - 6 * (1 / 4) * (1 / 4) - 2 * (1 / 4)) := by
    refine ⟨0, 0, nofun, ?_, ?_, ?_⟩ <;> norm_num [Holds]
  exact (generateJerkLimitedStopProfile_jerkBounded_iff hok).2
    (.inr (.inr ⟨by norm_num, hramps⟩))

/-- The stop of the tests ends from the full deceleration at once. -/
theorem not_jerkBounded_generated :
    ¬ ∀ (initialSpeed maxDecel maxJerk dt : ℚ) (capacity : ℕ),
      (generateJerkLimitedStopProfile initialSpeed maxDecel maxJerk dt capacity).ok = true →
      JerkBounded maxJerk dt
        (generateJerkLimitedStopProfile initialSpeed maxDecel maxJerk dt capacity).points := by
  intro h
  have hcase := h 1.5 2 10 0.01 200 (by decide +kernel)
  exact absurd hcase (by unfold JerkBounded; decide +kernel)

end Motion

end SafetyCore
