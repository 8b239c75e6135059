import Mathlib.Algebra.Order.Archimedean.Basic
import SafetyCore.Ros.SafetyEnvelope.EmptyCorridor
import SafetyCore.Ros.SafetyEnvelope.Zones

/-!
# When an emergency can be published

An obstacle nearer than `scan_ignore_min_range_m` is taken for a worker on the robot and ignored.
The nearest obstacle is therefore never nearer than that range, and the node can publish an
emergency only if the buffer reaches beyond it at some speed. With the default parameters it does
not, and no run of the node publishes one.
-/

namespace SafetyCore

open Arithmetic Transition

/-- During the grace period no zone becomes an emergency. -/
theorem SafetyZone.duringGrace_emergency_iff (inGrace : Bool) {zone : SafetyZone}
    (hzone : ∀ raw, zone ≠ .other raw) :
    (zone.duringGrace inGrace).toRaw = SafetyZone.emergency.toRaw ↔
      inGrace = false ∧ zone = .emergency := by
  cases zone with
  | other raw => exact absurd rfl (hzone raw)
  | _ => cases inGrace <;> decide

namespace SafetyEnvelopeNode

section Nearest

variable {K : Type*} [Field K] [LinearOrder K] [Trigonometry K] (n : SafetyEnvelopeNode K)

/-- The loop keeps what it has found or finds an obstacle that is not to be ignored. -/
theorem le_nearestFrom (scan : LaserScan K) {rs : List K} {i : ℕ} {minD : WithTop K}
    (h : (n.scanIgnoreMinRangeM : WithTop K) ≤ minD) :
    (n.scanIgnoreMinRangeM : WithTop K) ≤ n.nearestFrom scan i rs minD := by
  induction rs generalizing i minD with
  | nil => exact h
  | cons r rs ih =>
      refine ih ?_
      unfold nearestStep
      dsimp only
      split_ifs with hvalid hcorridor hignored
      · exact h
      · exact h
      · exact h
      · rw [stdMin_eq_min]
        exact le_min (WithTop.coe_le_coe.2 (not_lt.1 hignored)) h

theorem le_nearestObstacle (scan : LaserScan K) :
    (n.scanIgnoreMinRangeM : WithTop K) ≤ n.nearestObstacleInFootprintCorridor scan :=
  n.le_nearestFrom scan le_top

end Nearest

section Published

variable {K : Type*} [Field K] [LinearOrder K] [SquareRoot K] (n : SafetyEnvelopeNode K)
  {speed : K} {now : ℤ}

/-- An emergency is published for an obstacle inside the buffer, past the grace period. -/
theorem publishEnvelope_emergency_iff {distance : WithTop K} :
    (n.publishEnvelope distance speed now).zone = SafetyZone.emergency.toRaw ↔
      n.inGracePeriod now = false ∧ ∃ d : K, distance = d ∧ 0 ≤ d ∧
        d - n.footprint.frontOverhangM < n.dynamicBuffer speed := by
  have hnone : (n.noObstacleStatus speed now).zone ≠ SafetyZone.emergency.toRaw := by
    unfold noObstacleStatus
    dsimp only
    split_ifs <;> decide
  cases distance with
  | top => exact iff_of_false hnone (by rintro ⟨-, d, hd, -⟩; cases hd)
  | coe d =>
      by_cases hd : 0 ≤ d
      · rw [publishEnvelope_zone n speed now hd, evaluate_zone,
          SafetyZone.duringGrace_emergency_iff _ zoneOf_ne_other, zoneOf_eq_emergency_iff]
        refine and_congr_right fun _ => ⟨fun hlt => ⟨d, rfl, hd, hlt⟩, ?_⟩
        rintro ⟨d', hd', -, hlt⟩
        cases hd'
        exact hlt
      · have hinvalid : n.publishEnvelope (d : WithTop K) speed now =
            n.noObstacleStatus speed now := if_pos (.inr (not_le.1 hd))
        rw [hinvalid]
        refine iff_of_false hnone ?_
        rintro ⟨-, d', hd', hpos, -⟩
        cases hd'
        exact hd hpos

end Published

/-! ## Over the runs -/

section Runs

variable (n : SafetyEnvelopeNode ℝ)

/-- A scan with one range, straight ahead. -/
def scanAhead (range : ℝ) : LaserScan ℝ := ⟨0, 0, range, [range]⟩

theorem nearestObstacle_scanAhead {range : ℝ} (hpos : 0 < range)
    (hmin : n.scanMinValidRangeM ≤ range) (hignore : n.scanIgnoreMinRangeM ≤ range) :
    n.nearestObstacleInFootprintCorridor (scanAhead range) = (range : WithTop ℝ) := by
  have hcos : cos (0 : ℝ) = 1 := Real.cos_zero
  have hsin : sin (0 : ℝ) = 0 := Real.sin_zero
  simp [nearestObstacleInFootprintCorridor, nearestFrom, nearestStep, scanAhead, isScanPointValid,
    isFinite, calculatePointDistance, isPointInForwardCorridor, hcos, hsin, hpos, hmin, hignore,
    stdMin, corridorSq, mul_self_nonneg]

theorem exists_not_inGracePeriod : ∃ now : ℤ, n.inGracePeriod now = false := by
  obtain ⟨seconds, hseconds⟩ := exists_nat_ge n.startupGracePeriodS
  refine ⟨n.startupTimeNs + 1000000000 * seconds, ?_⟩
  have hage : ((n.startupTimeNs + 1000000000 * seconds - n.startupTimeNs : ℤ) : ℝ) / 1e9 =
      seconds := by
    push_cast
    ring
  unfold inGracePeriod
  rw [hage]
  exact decide_eq_false (not_lt.2 hseconds)

/-- Some run of the node publishes an emergency exactly if, at some speed, the buffer reaches
beyond the range within which obstacles are ignored. -/
theorem emergency_reachable_iff (hpos : 0 < n.scanIgnoreMinRangeM)
    (hmin : n.scanMinValidRangeM ≤ n.scanIgnoreMinRangeM) :
    (∃ es scan now, ((component.run n es).onScan scan now).zone = SafetyZone.emergency.toRaw) ↔
      ∃ speed, 0 ≤ speed ∧
        n.scanIgnoreMinRangeM - n.footprint.frontOverhangM < n.dynamicBuffer speed := by
  constructor
  · rintro ⟨es, scan, now, hzone⟩
    rw [run_eq_onOdom] at hzone
    obtain ⟨-, d, hd, -, hlt⟩ := (publishEnvelope_emergency_iff _).1 hzone
    have hle := (n.onOdom ((lastValue Event.linearX? es).getD n.latestSpeedMps)).le_nearestObstacle
      scan
    rw [hd] at hle
    refine ⟨stdMax 0 _, ?_, lt_of_le_of_lt (sub_le_sub_right (WithTop.coe_le_coe.1 hle) _) hlt⟩
    rw [stdMax_eq_max]
    exact le_max_left _ _
  · rintro ⟨speed, hspeed, hlt⟩
    obtain ⟨now, hnow⟩ := n.exists_not_inGracePeriod
    refine ⟨[.odom speed], scanAhead n.scanIgnoreMinRangeM, now, ?_⟩
    refine (publishEnvelope_emergency_iff _).2 ⟨hnow, n.scanIgnoreMinRangeM, ?_, hpos.le, ?_⟩
    · exact nearestObstacle_scanAhead _ hpos hmin le_rfl
    · change _ < n.dynamicBuffer (stdMax 0 speed)
      rw [stdMax_eq_max, max_eq_right hspeed]
      exact hlt

/-- The default parameters: obstacles are ignored up to half a metre, the buffer ends at forty
centimetres from the axle. -/
theorem emergency_unreachable_default :
    ¬ ∃ es scan now,
      ((component.run (membersOf ({} : SafetyEnvelopeParams ℝ) 0) es).onScan scan now).zone =
        SafetyZone.emergency.toRaw := by
  rw [emergency_reachable_iff _ (by norm_num [membersOf]) (by norm_num [membersOf])]
  rintro ⟨speed, -, hlt⟩
  norm_num [membersOf, dynamicBuffer, configOf] at hlt

end Runs

end SafetyEnvelopeNode

end SafetyCore
