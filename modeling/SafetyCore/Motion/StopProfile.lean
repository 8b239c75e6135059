import SafetyCore.Arithmetic.Rounding

/-!
# Jerk-limited stop profiles

`generateJerkLimitedStopProfile` samples a stop with period `dt`: the
deceleration is ramped up to its limit, held, and ramped down again when the
speed left is about to run out. The buffer of the source and its `out_count` are
the list of the points written, so a profile that does not fit has as many
points as the buffer.

The speeds of a profile never increase and are never negative. This uses only
`OrderedArith`, so it holds of rounded arithmetic as well.
-/

namespace SafetyCore

open Arithmetic

structure TrajectoryPoint (α : Type*) where
  tS : α
  speedMps : α
  accelMps2 : α
  jerkMps3 : α
  distanceM : α
  deriving DecidableEq, Repr

/-- What a profile generator returns: its result and the points it wrote. -/
structure StopProfile (α : Type*) where
  ok : Bool
  points : List (TrajectoryPoint α)
  deriving DecidableEq, Repr

namespace Motion

section Definitions

variable {α : Type*} [Zero α] [Add α] [Mul α] [Div α] [Neg α] [OfScientific α]
  [LT α] [DecidableLT α] [LE α] [DecidableLE α]

/-- The acceleration and the jerk of the next sample, from the speed `v` and the
acceleration `a` of the last one. -/
def jerkPhase (maxDecel maxJerk dt v a : α) : α × α :=
  if a > -maxDecel then
    -- ramp up deceleration
    let jerk := -maxJerk
    let a := a + jerk * dt
    if a < -maxDecel then (-maxDecel, 0) else (a, jerk)
  else
    -- at max deceleration: ramp down once stopping takes no longer than the ramp
    let tStop := if stdAbs a > 1e-9 then v / stdAbs a else 0
    let tRamp := stdAbs a / maxJerk
    if tStop ≤ tRamp then
      let a := a + maxJerk * dt
      if a > 0 then (0, 0) else (a, maxJerk)
    else
      (a, 0)

/-- The loop of the generator with room for `capacity` more points. The point at
rest is written after the loop, if there is room left for it. -/
def jerkLimitedLoop (maxDecel maxJerk dt : α) :
    ℕ → α → α → α → α → StopProfile α
  | 0, _, _, _, _ => { ok := false, points := [] }
  | capacity + 1, t, v, a, x =>
      if v > 0 then
        let phase := jerkPhase maxDecel maxJerk dt v a
        let nextV := stdMax 0 (v + phase.1 * dt)
        let stepD := ((v + nextV) * 0.5) * dt
        let rest :=
          jerkLimitedLoop maxDecel maxJerk dt capacity (t + dt) nextV phase.1
            (x + stepD)
        { rest with points := ⟨t, v, phase.1, phase.2, x⟩ :: rest.points }
      else
        { ok := true, points := [⟨t, 0, 0, 0, x⟩] }

def generateJerkLimitedStopProfile [FiniteTest α]
    (initialSpeed maxDecel maxJerk dt : α) (capacity : ℕ) : StopProfile α :=
  if capacity = 0 || !isFinite initialSpeed || !isFinite maxDecel ||
      !isFinite maxJerk || !isFinite dt || dt ≤ 0 || maxDecel ≤ 0 ||
      maxJerk ≤ 0 then
    { ok := false, points := [] }
  else
    jerkLimitedLoop maxDecel maxJerk dt capacity 0 (stdMax 0 initialSpeed) 0 0

/-- The inputs with which the jerk-limited loop starts. -/
structure StopInputs [FiniteTest α] (initialSpeed maxDecel maxJerk dt : α) (capacity : ℕ) :
    Prop where
  capacity : capacity ≠ 0
  speed : isFinite initialSpeed = true
  decel : isFinite maxDecel = true
  jerk : isFinite maxJerk = true
  step : isFinite dt = true
  not_dt_le : ¬ dt ≤ 0
  not_decel_le : ¬ maxDecel ≤ 0
  not_jerk_le : ¬ maxJerk ≤ 0

/-- A profile that is generated is what the loop writes from accepted inputs. -/
theorem generateJerkLimitedStopProfile_of_ok [FiniteTest α]
    {initialSpeed maxDecel maxJerk dt : α} {capacity : ℕ}
    (hok : (generateJerkLimitedStopProfile initialSpeed maxDecel maxJerk dt
      capacity).ok = true) :
    StopInputs initialSpeed maxDecel maxJerk dt capacity ∧
      generateJerkLimitedStopProfile initialSpeed maxDecel maxJerk dt capacity =
        jerkLimitedLoop maxDecel maxJerk dt capacity 0 (stdMax 0 initialSpeed) 0 0 := by
  unfold generateJerkLimitedStopProfile at *
  split at hok
  case isTrue => cases hok
  case isFalse hvalid =>
    rw [if_neg hvalid]
    simp only [Bool.or_eq_true, Bool.not_eq_true', decide_eq_true_eq, not_or,
      Bool.not_eq_false] at hvalid
    obtain ⟨⟨⟨⟨⟨⟨⟨hcapacity, hspeed⟩, hdecel⟩, hjerk⟩, hdt⟩, hdt0⟩, hdecel0⟩, hjerk0⟩ := hvalid
    exact ⟨⟨hcapacity, hspeed, hdecel, hjerk, hdt, hdt0, hdecel0, hjerk0⟩, rfl⟩

end Definitions

/-! ## Speeds -/

section Speeds

variable {α : Type*} [LinearOrder α] [Zero α] [Add α] [Mul α] [Div α] [Neg α]
  [OfScientific α] [OrderedArith α]

/-- The vehicle never accelerates. -/
theorem jerkPhase_nonpos {maxDecel maxJerk dt v a : α} (hd : 0 ≤ maxDecel)
    (hj : 0 ≤ maxJerk) (hdt : 0 ≤ dt) (ha : a ≤ 0) :
    (jerkPhase maxDecel maxJerk dt v a).1 ≤ 0 := by
  have hstep : -maxJerk * dt ≤ 0 :=
    OrderedArith.mul_le_zero (OrderedArith.neg_le_zero hj) hdt
  have hramp : a + -maxJerk * dt ≤ 0 := (OrderedArith.add_le_self hstep).trans ha
  have hmax : -maxDecel ≤ 0 := OrderedArith.neg_le_zero hd
  unfold jerkPhase
  by_cases hup : a > -maxDecel
  · by_cases hcap : a + -maxJerk * dt < -maxDecel <;> simp [hup, hcap, hmax, hramp]
  · simp only [hup, if_false]
    generalize (if stdAbs a > 1e-9 then v / stdAbs a else 0) = tStop
    by_cases hdown : tStop ≤ stdAbs a / maxJerk
    · by_cases hover : a + maxJerk * dt > 0
      · simp [hdown, hover]
      · simp [hdown, hover, not_lt.1 hover]
    · simp [hdown, ha]

/-- The speeds from any point of the loop on: none exceeds the current speed,
none is negative, and they never increase. -/
theorem jerkLimitedLoop_speeds {maxDecel maxJerk dt : α} (hd : 0 ≤ maxDecel)
    (hj : 0 ≤ maxJerk) (hdt : 0 ≤ dt) (capacity : ℕ) (t v a x : α)
    (hv : 0 ≤ v) (ha : a ≤ 0) :
    (∀ p ∈ (jerkLimitedLoop maxDecel maxJerk dt capacity t v a x).points,
        0 ≤ p.speedMps ∧ p.speedMps ≤ v) ∧
      (jerkLimitedLoop maxDecel maxJerk dt capacity t v a x).points.Pairwise
        (fun p q => q.speedMps ≤ p.speedMps) := by
  induction capacity generalizing t v a x with
  | zero => simp [jerkLimitedLoop]
  | succ capacity ih =>
      rw [jerkLimitedLoop]
      split
      case isFalse => simpa using hv
      case isTrue hpos =>
        simp only [stdMax_eq_max]
        have ha' := jerkPhase_nonpos (v := v) hd hj hdt ha
        generalize (jerkPhase maxDecel maxJerk dt v a).1 = a' at ha' ⊢
        have hle : max 0 (v + a' * dt) ≤ v :=
          max_le hv (OrderedArith.add_le_self (OrderedArith.mul_le_zero ha' hdt))
        obtain ⟨hbound, hpair⟩ := ih (t + dt) (max 0 (v + a' * dt)) a'
          (x + (v + max 0 (v + a' * dt)) * 0.5 * dt) (le_max_left _ _) ha'
        refine ⟨?_, List.pairwise_cons.2 ⟨?_, hpair⟩⟩
        · intro p hp
          rcases List.mem_cons.1 hp with rfl | hp
          · exact ⟨hv, le_rfl⟩
          · exact ⟨(hbound p hp).1, (hbound p hp).2.trans hle⟩
        · exact fun p hp => (hbound p hp).2.trans hle

/-- The speeds of a generated profile never increase and are never negative. -/
theorem generateJerkLimitedStopProfile_speeds [FiniteTest α]
    (initialSpeed maxDecel maxJerk dt : α) (capacity : ℕ) :
    (∀ p ∈ (generateJerkLimitedStopProfile initialSpeed maxDecel maxJerk dt
        capacity).points, 0 ≤ p.speedMps) ∧
      (generateJerkLimitedStopProfile initialSpeed maxDecel maxJerk dt
        capacity).points.Pairwise (fun p q => q.speedMps ≤ p.speedMps) := by
  unfold generateJerkLimitedStopProfile
  split
  case isTrue => simp
  case isFalse hvalid =>
    simp only [Bool.or_eq_true, decide_eq_true_eq, not_or, not_le] at hvalid
    obtain ⟨⟨⟨-, hdt⟩, hd⟩, hj⟩ := hvalid
    have h := jerkLimitedLoop_speeds hd.le hj.le hdt.le capacity 0
      (stdMax 0 initialSpeed) 0 0 (by simp) le_rfl
    exact ⟨fun p hp => (h.1 p hp).1, h.2⟩

end Speeds

end Motion

end SafetyCore
