import Mathlib.Order.Bounds.Basic
import SafetyCore.Motion.TrajectoryValidator

/-!
# The validator point by point

What the validator asks of a trajectory can be said of each point and the one before it,
without the loop. `Meets` says it for every violation, and `checkOrder` is the order in
which the violations of one point are looked for.
-/

namespace SafetyCore

open Arithmetic

/-- The clearance for a stop from `speed` is left: what the latency, the braking distance and
the buffer take. Without deceleration there is no such clearance. -/
def ClearanceLeft {K : Type*} [Field K] [LinearOrder K] (left speed : K)
    (envelope : MotionEnvelopeConfig K) : Prop :=
  0 < envelope.maxComfortDecelMps2 ∧
    max 0 speed * max 0 envelope.controlLatencyS +
        max 0 speed * max 0 speed / (2.0 * envelope.maxComfortDecelMps2) +
        envelope.safetyBufferM ≤ left

instance {K : Type*} [Field K] [LinearOrder K] (left speed : K)
    (envelope : MotionEnvelopeConfig K) : Decidable (ClearanceLeft left speed envelope) :=
  inferInstanceAs (Decidable (_ ∧ _))

theorem evaluateStopDistanceIn_withinEnvelope {K : Type*} [Field K] [LinearOrder K]
    [IsStrictOrderedRing K] [SquareRoot K] (left speed : K)
    (envelope : MotionEnvelopeConfig K) :
    (evaluateStopDistanceIn left speed envelope).withinEnvelope = true ↔
      ClearanceLeft left speed envelope := by
  unfold evaluateStopDistanceIn ClearanceLeft
  rw [evaluateStopDistance_withinEnvelope]
  by_cases hdecel : 0 < envelope.maxComfortDecelMps2
  · have htwo : (2.0 : K) = 2 := by norm_num
    rw [requiredClearance_of_decel_pos _ _ _ hdecel, WithTop.coe_le_coe, htwo]
    exact (and_iff_right hdecel).symm
  · have hinfinite : requiredClearance speed envelope.maxComfortDecelMps2
        envelope.controlLatencyS envelope.safetyBufferM = ⊤ := by
      simp [requiredClearance, hdecel]
    rw [hinfinite]
    exact iff_of_false (WithTop.not_top_le_coe left) fun h => hdecel h.1

namespace TrajectoryValidator

/-- The first element without the property, one test at a time. -/
theorem getD_find?_cons {α : Type*} (P : α → Prop) [DecidablePred P] (a d : α) (l : List α) :
    ((a :: l).find? fun x => !decide (P x)).getD d =
      if ¬ P a then a else (l.find? fun x => !decide (P x)).getD d := by
  by_cases h : P a <;> simp [h]

/-- The order in which the violations of one point are looked for. -/
def checkOrder : List TrajectoryViolation :=
  [.nonMonotonicTime, .nonMonotonicDistance, .speedOutOfBounds, .accelOutOfBounds,
    .jerkOutOfBounds, .envelopeViolation]

/-- The point before the one with the index `i`, where the points `ps` come after `prev`. -/
def pointBefore {α : Type*} (prev : Option α) (ps : List α) : ℕ → Option α
  | 0 => prev
  | i + 1 => ps[i]?

theorem pointBefore_some {α : Type*} (prev : Option α) (p : α) (ps : List α) (i : ℕ) :
    pointBefore (some p) ps i = pointBefore prev (p :: ps) (i + 1) := by
  cases i <;> rfl

/-- What holds of every point and the one before it holds of the first and of the others. -/
theorem forall_pointBefore_cons {α : Type*} (P : Option α → α → Prop) (prev : Option α) (p : α)
    (ps : List α) :
    (∀ k, ∀ q ∈ (p :: ps)[k]?, P (pointBefore prev (p :: ps) k) q) ↔
      P prev p ∧ ∀ k, ∀ q ∈ ps[k]?, P (pointBefore (some p) ps k) q := by
  constructor
  · intro h
    refine ⟨h 0 p rfl, fun k => ?_⟩
    rw [pointBefore_some prev]
    exact h (k + 1)
  · rintro ⟨hhead, hrest⟩ k
    cases k with
    | zero =>
        rintro _ ⟨⟩
        exact hhead
    | succ k =>
        rw [← pointBefore_some]
        exact hrest k

section Conditions

variable {K : Type*} [Field K] [LinearOrder K] (v : TrajectoryValidator K)

/-- What has to hold of the point `p` after the point `prev` for the violation not to be
found. -/
def Meets (prev : Option (TrajectoryPoint K)) (p : TrajectoryPoint K) :
    TrajectoryViolation → Prop
  | .nonMonotonicTime => ∀ q ∈ prev, q.tS < p.tS
  | .nonMonotonicDistance => ∀ q ∈ prev, q.distanceM ≤ p.distanceM + kNumericEpsilon
  | .speedOutOfBounds => ∀ cfg ∈ v.config, 0 < cfg.envelope.maxSpeedMps →
      |p.speedMps| ≤ cfg.envelope.maxSpeedMps + kNumericEpsilon
  | .accelOutOfBounds => ∀ cfg ∈ v.config, 0 < cfg.envelope.maxAccelMps2 →
      |p.accelMps2| ≤ cfg.envelope.maxAccelMps2 + kNumericEpsilon
  | .jerkOutOfBounds => |p.jerkMps3| ≤ v.maxJerkMps3 + kNumericEpsilon
  | .envelopeViolation => ∀ cfg ∈ v.config, 0 ≤ v.obstacleDistanceM →
      ClearanceLeft (v.obstacleDistanceM - p.distanceM) p.speedMps cfg.envelope
  | .none | .nullInput | .emptyTrajectory => True

instance (prev : Option (TrajectoryPoint K)) (p : TrajectoryPoint K) :
    DecidablePred (v.Meets prev p)
  | .nonMonotonicTime => inferInstanceAs (Decidable (∀ q ∈ prev, q.tS < p.tS))
  | .nonMonotonicDistance =>
      inferInstanceAs (Decidable (∀ q ∈ prev, q.distanceM ≤ p.distanceM + kNumericEpsilon))
  | .speedOutOfBounds =>
      inferInstanceAs (Decidable (∀ cfg ∈ v.config, 0 < cfg.envelope.maxSpeedMps →
        |p.speedMps| ≤ cfg.envelope.maxSpeedMps + kNumericEpsilon))
  | .accelOutOfBounds =>
      inferInstanceAs (Decidable (∀ cfg ∈ v.config, 0 < cfg.envelope.maxAccelMps2 →
        |p.accelMps2| ≤ cfg.envelope.maxAccelMps2 + kNumericEpsilon))
  | .jerkOutOfBounds =>
      inferInstanceAs (Decidable (|p.jerkMps3| ≤ v.maxJerkMps3 + kNumericEpsilon))
  | .envelopeViolation =>
      inferInstanceAs (Decidable (∀ cfg ∈ v.config, 0 ≤ v.obstacleDistanceM →
        ClearanceLeft (v.obstacleDistanceM - p.distanceM) p.speedMps cfg.envelope))
  | .none | .nullInput | .emptyTrajectory => inferInstanceAs (Decidable True)

/-- The first violation in the order of the checks whose condition fails. -/
def firstViolation (prev : Option (TrajectoryPoint K)) (p : TrajectoryPoint K) :
    Option TrajectoryViolation :=
  checkOrder.find? fun violation => !decide (v.Meets prev p violation)

variable {v}

theorem firstViolation_eq_none {prev : Option (TrajectoryPoint K)} {p : TrajectoryPoint K} :
    v.firstViolation prev p = none ↔ ∀ violation ∈ checkOrder, v.Meets prev p violation := by
  simp [firstViolation]

theorem firstViolation_ne_none {prev : Option (TrajectoryPoint K)} {p : TrajectoryPoint K} :
    v.firstViolation prev p ≠ some .none := by
  intro hnone
  have hmem := List.mem_of_find?_eq_some hnone
  simp [checkOrder] at hmem

/-- A limit that is not positive, or that no configuration sets, is not exceeded. -/
theorem limitOf_exceeded_iff (limit : MotionEnvelopeConfig K → K) (x : K) :
    (0 < v.limitOf limit ∧ v.limitOf limit + kNumericEpsilon < |x|) ↔
      ¬ ∀ cfg ∈ v.config, 0 < limit cfg.envelope →
        |x| ≤ limit cfg.envelope + kNumericEpsilon := by
  unfold limitOf
  cases v.config with
  | none => simp
  | some cfg =>
      by_cases hpos : 0 < limit cfg.envelope
      · simp [hpos, max_eq_right hpos.le]
      · simp [hpos, max_eq_left (not_lt.1 hpos)]

variable [IsStrictOrderedRing K] [SquareRoot K]

/-- The envelope is checked where it is configured and an obstacle is set. -/
theorem leavesEnvelope_iff (v : TrajectoryValidator K) (p : TrajectoryPoint K) :
    v.LeavesEnvelope p ↔ ¬ ∀ cfg ∈ v.config, 0 ≤ v.obstacleDistanceM →
      ClearanceLeft (v.obstacleDistanceM - p.distanceM) p.speedMps cfg.envelope := by
  unfold LeavesEnvelope
  cases v.config with
  | none => simp
  | some cfg =>
      have hleft := evaluateStopDistanceIn_withinEnvelope
        (v.obstacleDistanceM - p.distanceM) p.speedMps cfg.envelope
      simp [← hleft]

/-- The checks of the source are the conditions, taken in their order. -/
theorem checkPoint_eq_firstViolation (v : TrajectoryValidator K)
    (prev : Option (TrajectoryPoint K)) (p : TrajectoryPoint K) :
    v.checkPoint prev p = (v.firstViolation prev p).getD .none := by
  have htime : (prev.any fun q => p.tS ≤ q.tS) = true ↔
      ¬ v.Meets prev p .nonMonotonicTime := by
    cases prev <;> simp [Meets]
  have hdistance : (prev.any fun q => p.distanceM + kNumericEpsilon < q.distanceM) = true ↔
      ¬ v.Meets prev p .nonMonotonicDistance := by
    cases prev <;> simp [Meets]
  have hspeed : _ ↔ ¬ v.Meets prev p .speedOutOfBounds :=
    limitOf_exceeded_iff MotionEnvelopeConfig.maxSpeedMps p.speedMps
  have haccel : _ ↔ ¬ v.Meets prev p .accelOutOfBounds :=
    limitOf_exceeded_iff MotionEnvelopeConfig.maxAccelMps2 p.accelMps2
  have hjerk : v.maxJerkMps3 + kNumericEpsilon < |p.jerkMps3| ↔
      ¬ v.Meets prev p .jerkOutOfBounds := not_le.symm
  have henvelope : v.LeavesEnvelope p ↔ ¬ v.Meets prev p .envelopeViolation :=
    v.leavesEnvelope_iff p
  unfold LeavesEnvelope at henvelope
  unfold checkPoint firstViolation checkOrder
  simp only [isFinite, Bool.not_true, Bool.or_self, Bool.false_eq_true, if_false,
    stdAbs_eq_abs, htime, hdistance, hspeed, haccel, hjerk, henvelope, getD_find?_cons,
    List.find?_nil, Option.getD_none]

theorem validateFrom_cons_of_firstViolation_eq_none {i : ℕ}
    {prev : Option (TrajectoryPoint K)} {p : TrajectoryPoint K}
    (h : v.firstViolation prev p = none) (ps : List (TrajectoryPoint K)) :
    v.validateFrom i prev (p :: ps) = v.validateFrom (i + 1) (some p) ps := by
  rw [validateFrom, checkPoint_eq_firstViolation, h]
  rfl

theorem validateFrom_cons_of_firstViolation_eq_some {i : ℕ}
    {prev : Option (TrajectoryPoint K)} {p : TrajectoryPoint K} {violation : TrajectoryViolation}
    (h : v.firstViolation prev p = some violation) (ps : List (TrajectoryPoint K)) :
    v.validateFrom i prev (p :: ps) =
      { ok := false, violation := violation, failingIndex := i } := by
  have hne : violation ≠ .none := fun hnone => firstViolation_ne_none (hnone ▸ h)
  rw [validateFrom, checkPoint_eq_firstViolation, h, Option.getD_some]
  cases violation with
  | none => exact absurd rfl hne
  | _ => rfl

/-- The loop accepts where no point has a violation. -/
theorem validateFrom_ok_iff (v : TrajectoryValidator K) (i : ℕ)
    (prev : Option (TrajectoryPoint K)) (ps : List (TrajectoryPoint K)) :
    (v.validateFrom i prev ps).ok = true ↔
      ∀ k, ∀ p ∈ ps[k]?, v.firstViolation (pointBefore prev ps k) p = none := by
  induction ps generalizing i prev with
  | nil => exact iff_of_true rfl (by simp)
  | cons p ps ih =>
      cases hfirst : v.firstViolation prev p with
      | none =>
          rw [validateFrom_cons_of_firstViolation_eq_none hfirst, ih,
            forall_pointBefore_cons fun prev q => v.firstViolation prev q = none]
          exact (and_iff_right hfirst).symm
      | some violation =>
          rw [validateFrom_cons_of_firstViolation_eq_some hfirst,
            forall_pointBefore_cons fun prev q => v.firstViolation prev q = none, hfirst]
          exact iff_of_false Bool.false_ne_true fun h => Option.some_ne_none _ h.1

/-- Where the loop does not accept, it names the first point with a violation, and the
first violation there. -/
theorem validateFrom_of_not_ok (v : TrajectoryValidator K) {i : ℕ}
    {prev : Option (TrajectoryPoint K)} {ps : List (TrajectoryPoint K)}
    (h : (v.validateFrom i prev ps).ok = false) :
    ∃ k, (v.validateFrom i prev ps).failingIndex = i + k ∧
      (∃ p ∈ ps[k]?, v.firstViolation (pointBefore prev ps k) p =
        some (v.validateFrom i prev ps).violation) ∧
      ∀ l < k, ∀ p ∈ ps[l]?, v.firstViolation (pointBefore prev ps l) p = none := by
  induction ps generalizing i prev with
  | nil => cases h
  | cons p ps ih =>
      cases hfirst : v.firstViolation prev p with
      | none =>
          rw [validateFrom_cons_of_firstViolation_eq_none hfirst] at h ⊢
          obtain ⟨k, hindex, hfound, hbefore⟩ := ih h
          refine ⟨k + 1, hindex.trans (by omega), ?_, ?_⟩
          · rw [← pointBefore_some]
            exact hfound
          · intro l hl
            cases l with
            | zero =>
                rintro _ ⟨⟩
                exact hfirst
            | succ l =>
                rw [← pointBefore_some]
                exact hbefore l (Nat.lt_of_succ_lt_succ hl)
      | some violation =>
          rw [validateFrom_cons_of_firstViolation_eq_some hfirst]
          exact ⟨0, rfl, ⟨p, rfl, hfirst⟩, nofun⟩

/-- A trajectory is accepted where each of its points meets every condition. Otherwise the
result names the first point that does not, and the first condition that fails there. -/
theorem validate_pointwise (v : TrajectoryValidator K) {ps : List (TrajectoryPoint K)}
    (hne : ps ≠ []) :
    ((v.validate (some ps)).ok = true ↔
      ∀ k, ∀ p ∈ ps[k]?, ∀ violation ∈ checkOrder,
        v.Meets (pointBefore none ps k) p violation) ∧
    ((v.validate (some ps)).ok = false →
      IsLeast {k | ∃ p ∈ ps[k]?, ¬ ∀ violation ∈ checkOrder,
          v.Meets (pointBefore none ps k) p violation}
        (v.validate (some ps)).failingIndex ∧
      ∃ p ∈ ps[(v.validate (some ps)).failingIndex]?,
        v.firstViolation (pointBefore none ps (v.validate (some ps)).failingIndex) p =
          some (v.validate (some ps)).violation) := by
  have hloop : v.validate (some ps) = v.validateFrom 0 none ps := by
    cases ps with
    | nil => exact absurd rfl hne
    | cons p ps => rfl
  rw [hloop]
  simp only [← firstViolation_eq_none]
  refine ⟨v.validateFrom_ok_iff 0 none ps, fun hfail => ?_⟩
  obtain ⟨k, hindex, ⟨p, hp, hfound⟩, hbefore⟩ := v.validateFrom_of_not_ok hfail
  rw [Nat.zero_add] at hindex
  rw [hindex]
  refine ⟨⟨⟨p, hp, ?_⟩, ?_⟩, p, hp, hfound⟩
  · rw [hfound]
    exact Option.some_ne_none _
  · rintro l ⟨q, hq, hviolated⟩
    exact not_lt.1 fun hl => hviolated (hbefore l hl q hq)

/-- The second point has more jerk than the validator allows by default. -/
def jerkySecond : List (TrajectoryPoint ℝ) := [⟨0, 1, 0, 0, 0⟩, ⟨1, 1, 0, 6, 1⟩]

theorem validate_pointwise_jerk :
    let v : TrajectoryValidator ℝ := {}
    let result := v.validate (some jerkySecond)
    result.ok = false ∧
      IsLeast {k | ∃ p ∈ jerkySecond[k]?, ¬ ∀ violation ∈ checkOrder,
          v.Meets (pointBefore none jerkySecond k) p violation} result.failingIndex ∧
      ∃ p ∈ jerkySecond[result.failingIndex]?,
        v.firstViolation (pointBefore none jerkySecond result.failingIndex) p =
          some result.violation := by
  intro v result
  obtain ⟨hok, hfirst⟩ := v.validate_pointwise (List.cons_ne_nil _ _ : jerkySecond ≠ [])
  have hfails : result.ok = false := by
    refine Bool.eq_false_iff.2 fun htrue => ?_
    have hmeets := hok.1 htrue 1 _ rfl .jerkOutOfBounds (by simp [checkOrder])
    norm_num [v, Meets, kNumericEpsilon] at hmeets
  exact ⟨hfails, hfirst hfails⟩

end Conditions

end TrajectoryValidator

end SafetyCore
