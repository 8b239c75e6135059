import Mathlib.Tactic.Linarith
import SafetyCore.Config.SystemConfig
import SafetyCore.Motion.StopProfile
import SafetyCore.Safety.StopDistance

/-!
# The trajectory validator

`TrajectoryValidator` goes through the points of a trajectory and stops at the first one
that is not finite, not later and not further than the one before, or outside the limits.
A limit of the configuration that is not positive is no limit. The envelope is checked only
where an obstacle distance is set; a negative distance stands for none.

A pointer to points is `none` where it is null, and `count` is the length of the list.
-/

namespace SafetyCore

open Arithmetic

inductive TrajectoryViolation
  | none
  | nullInput
  | emptyTrajectory
  | nonMonotonicTime
  | speedOutOfBounds
  | accelOutOfBounds
  | jerkOutOfBounds
  | nonMonotonicDistance
  | envelopeViolation
  deriving DecidableEq, Repr

structure TrajectoryValidationResult where
  ok : Bool := true
  violation : TrajectoryViolation := .none
  failingIndex : ℕ := 0
  deriving DecidableEq, Repr

structure TrajectoryValidator (α : Type*) [Neg α] [OfScientific α] where
  config : Option (SystemConfig α) := none
  maxJerkMps3 : α := 5.0
  obstacleDistanceM : α := -1.0

namespace TrajectoryValidator

section Definitions

variable {α : Type*} [Zero α] [Add α] [Sub α] [Mul α] [Div α] [Neg α] [OfScientific α]
  [LT α] [DecidableLT α] [LE α] [DecidableLE α] [FiniteTest α] [SquareRoot α]

def kNumericEpsilon : α := 1e-12

variable (v : TrajectoryValidator α)

def applyConfig (cfg : SystemConfig α) : TrajectoryValidator α :=
  { v with config := some cfg }

def setMaxJerkMps3 (jerkLimit : α) : TrajectoryValidator α :=
  { v with maxJerkMps3 := if jerkLimit < 0 then 0 else jerkLimit }

def setObstacleDistanceM (obstacleDistance : α) : TrajectoryValidator α :=
  { v with obstacleDistanceM := obstacleDistance }

/-- The limit on a quantity, zero where no configuration is applied. -/
def limitOf (limit : MotionEnvelopeConfig α → α) : α :=
  match v.config with
  | none => 0
  | some cfg => stdMax 0 (limit cfg.envelope)

/-- The checks of one point after the point `prev`, in their order. -/
def checkPoint (prev : Option (TrajectoryPoint α)) (p : TrajectoryPoint α) :
    TrajectoryViolation :=
  let maxSpeed := v.limitOf MotionEnvelopeConfig.maxSpeedMps
  let maxAccel := v.limitOf MotionEnvelopeConfig.maxAccelMps2
  if !isFinite p.tS || !isFinite p.speedMps || !isFinite p.accelMps2 ||
      !isFinite p.jerkMps3 || !isFinite p.distanceM then
    .nullInput
  else if prev.any fun q => p.tS ≤ q.tS then
    .nonMonotonicTime
  else if prev.any fun q => p.distanceM + kNumericEpsilon < q.distanceM then
    .nonMonotonicDistance
  else if 0 < maxSpeed ∧ maxSpeed + kNumericEpsilon < stdAbs p.speedMps then
    .speedOutOfBounds
  else if 0 < maxAccel ∧ maxAccel + kNumericEpsilon < stdAbs p.accelMps2 then
    .accelOutOfBounds
  else if v.maxJerkMps3 + kNumericEpsilon < stdAbs p.jerkMps3 then
    .jerkOutOfBounds
  else if 0 ≤ v.obstacleDistanceM ∧ v.config.any fun cfg =>
      !(evaluateStopDistanceIn (v.obstacleDistanceM - p.distanceM) p.speedMps
        cfg.envelope).withinEnvelope then
    .envelopeViolation
  else
    .none

/-- The loop from the point with the index `i` on. -/
def validateFrom : ℕ → Option (TrajectoryPoint α) → List (TrajectoryPoint α) →
    TrajectoryValidationResult
  | _, _, [] => {}
  | i, prev, p :: ps =>
      match v.checkPoint prev p with
      | .none => validateFrom (i + 1) (some p) ps
      | violation => { ok := false, violation := violation, failingIndex := i }

def validate : Option (List (TrajectoryPoint α)) → TrajectoryValidationResult
  | none => { ok := false, violation := .nullInput }
  | some [] => { ok := false, violation := .emptyTrajectory }
  | some (p :: ps) => v.validateFrom 0 none (p :: ps)

end Definitions

/-! ## Accepted trajectories -/

section Field

variable {K : Type*} [Field K] [LinearOrder K]

/-- No check of the validator fails on a point within these bounds, and no envelope is
checked. -/
structure Permits (v : TrajectoryValidator K) (speed accel jerk : K) : Prop where
  speed_le : ∀ cfg ∈ v.config, speed ≤ cfg.envelope.maxSpeedMps
  accel_le : ∀ cfg ∈ v.config, accel ≤ cfg.envelope.maxAccelMps2
  jerk_le : jerk ≤ v.maxJerkMps3
  no_obstacle : v.obstacleDistanceM < 0

/-- The same without a word about the envelope. -/
structure PermitsMotion (v : TrajectoryValidator K) (speed accel jerk : K) : Prop where
  speed_le : ∀ cfg ∈ v.config, speed ≤ cfg.envelope.maxSpeedMps
  accel_le : ∀ cfg ∈ v.config, accel ≤ cfg.envelope.maxAccelMps2
  jerk_le : jerk ≤ v.maxJerkMps3

theorem Permits.motion {v : TrajectoryValidator K} {speed accel jerk : K}
    (hv : v.Permits speed accel jerk) : v.PermitsMotion speed accel jerk :=
  ⟨hv.speed_le, hv.accel_le, hv.jerk_le⟩

/-- The envelope is checked, and the point is not inside. -/
def LeavesEnvelope [SquareRoot K] (v : TrajectoryValidator K) (p : TrajectoryPoint K) :
    Prop :=
  0 ≤ v.obstacleDistanceM ∧ v.config.any fun cfg =>
    !(evaluateStopDistanceIn (v.obstacleDistanceM - p.distanceM) p.speedMps
      cfg.envelope).withinEnvelope

instance [SquareRoot K] (v : TrajectoryValidator K) (p : TrajectoryPoint K) :
    Decidable (v.LeavesEnvelope p) :=
  inferInstanceAs (Decidable (_ ∧ _))

/-- The point stays within the bounds. -/
structure PointWithin (speed accel jerk : K) (p : TrajectoryPoint K) : Prop where
  speed_le : |p.speedMps| ≤ speed
  accel_le : |p.accelMps2| ≤ accel
  jerk_le : |p.jerkMps3| ≤ jerk

/-- Time passes from `q` to `p`, and the distance does not shrink. -/
def Advances (q p : TrajectoryPoint K) : Prop :=
  q.tS < p.tS ∧ q.distanceM ≤ p.distanceM

variable [IsStrictOrderedRing K] {v : TrajectoryValidator K} {speed accel jerk : K}

theorem kNumericEpsilon_nonneg : (0 : K) ≤ kNumericEpsilon := by
  norm_num [kNumericEpsilon]

/-- A quantity below every configured limit is not found out of bounds. -/
theorem not_limitOf_lt {limit : MotionEnvelopeConfig K → K} {bound x : K}
    (hbound : ∀ cfg ∈ v.config, bound ≤ limit cfg.envelope) (hx : |x| ≤ bound) :
    ¬ (0 < v.limitOf limit ∧ v.limitOf limit + kNumericEpsilon < stdAbs x) := by
  rintro ⟨hpos, hlt⟩
  rw [stdAbs_eq_abs] at hlt
  unfold limitOf at hpos hlt
  cases hcfg : v.config with
  | none =>
      rw [hcfg] at hpos
      exact lt_irrefl 0 hpos
  | some cfg =>
      simp only [hcfg, stdMax_eq_max] at hlt
      have hle := hbound cfg hcfg
      have hmax := le_max_right 0 (limit cfg.envelope)
      have heps := kNumericEpsilon_nonneg (K := K)
      linarith

variable [SquareRoot K]

/-- Within the bounds only the envelope decides. -/
theorem checkPoint_of_permitsMotion (hv : v.PermitsMotion speed accel jerk)
    {prev : Option (TrajectoryPoint K)} {p : TrajectoryPoint K}
    (hp : PointWithin speed accel jerk p) (hprev : ∀ q ∈ prev, Advances q p) :
    v.checkPoint prev p = if v.LeavesEnvelope p then .envelopeViolation else .none := by
  have heps := kNumericEpsilon_nonneg (K := K)
  have htime : (prev.any fun q => p.tS ≤ q.tS) = false := by
    cases prev with
    | none => rfl
    | some q => simpa using (hprev q rfl).1
  have hdistance : (prev.any fun q => p.distanceM + kNumericEpsilon < q.distanceM) =
      false := by
    cases prev with
    | none => rfl
    | some q =>
        have hle := (hprev q rfl).2
        simpa using hle.trans (le_add_of_nonneg_right heps)
  have hjerk : ¬ v.maxJerkMps3 + kNumericEpsilon < stdAbs p.jerkMps3 := by
    rw [stdAbs_eq_abs, not_lt]
    exact (hp.jerk_le.trans hv.jerk_le).trans (le_add_of_nonneg_right heps)
  unfold checkPoint
  simp only [isFinite, Bool.not_true, Bool.or_self, Bool.false_eq_true, if_false, htime,
    hdistance, not_limitOf_lt hv.speed_le hp.speed_le, not_limitOf_lt hv.accel_le hp.accel_le,
    hjerk]
  rfl

theorem checkPoint_eq_none (hv : v.Permits speed accel jerk)
    {prev : Option (TrajectoryPoint K)} {p : TrajectoryPoint K}
    (hp : PointWithin speed accel jerk p) (hprev : ∀ q ∈ prev, Advances q p) :
    v.checkPoint prev p = .none := by
  rw [checkPoint_of_permitsMotion hv.motion hp hprev, if_neg]
  exact fun hleaves => not_le.2 hv.no_obstacle hleaves.1

/-- A trajectory that advances from point to point within the bounds is accepted. -/
theorem validateFrom_ok (hv : v.Permits speed accel jerk) {ps : List (TrajectoryPoint K)}
    (hps : ∀ p ∈ ps, PointWithin speed accel jerk p) (hchain : ps.IsChain Advances) (i : ℕ)
    {prev : Option (TrajectoryPoint K)} (hprev : ∀ q ∈ prev, ∀ p ∈ ps.head?, Advances q p) :
    (v.validateFrom i prev ps).ok = true := by
  induction ps generalizing i prev with
  | nil => rfl
  | cons p ps ih =>
      have hcheck : v.checkPoint prev p = .none :=
        checkPoint_eq_none hv (hps p List.mem_cons_self) fun q hq => hprev q hq p rfl
      rw [validateFrom, hcheck]
      refine ih (fun q hq => hps q (List.mem_cons_of_mem p hq)) hchain.tail (i + 1) ?_
      rintro q ⟨⟩ r hr
      exact (List.isChain_cons.1 hchain).1 r hr

theorem validate_ok (hv : v.Permits speed accel jerk) {ps : List (TrajectoryPoint K)}
    (hne : ps ≠ []) (hps : ∀ p ∈ ps, PointWithin speed accel jerk p)
    (hchain : ps.IsChain Advances) : (v.validate (some ps)).ok = true := by
  cases ps with
  | nil => exact absurd rfl hne
  | cons p ps => exact validateFrom_ok hv hps hchain 0 nofun

end Field

end TrajectoryValidator

end SafetyCore
