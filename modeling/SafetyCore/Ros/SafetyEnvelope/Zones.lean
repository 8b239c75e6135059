import SafetyCore.Ros.SafetyEnvelope
import SafetyCore.Safety.StopDistance.Monotone

/-!
# The published zones

The zone of the evaluation only gets milder with the distance. During the grace period the
node publishes an emergency as a warning and keeps the protective zone as it is, so there an
obstacle inside the buffer is published with a milder zone than one between the buffer and
the required clearance.
-/

namespace SafetyCore

open Arithmetic

/-- The zone that is published for the zone of an evaluation. -/
def SafetyZone.duringGrace (inGrace : Bool) (zone : SafetyZone) : SafetyZone :=
  if inGrace ∧ zone = .emergency then .warning else zone

/-- Taking an emergency for a warning turns the order of two zones around exactly where the
milder one is the protective zone. -/
theorem SafetyZone.duringGrace_toRaw_le_iff (inGrace : Bool) {zone zone' : SafetyZone}
    (hzone : ∀ raw, zone ≠ .other raw) (hzone' : ∀ raw, zone' ≠ .other raw)
    (h : zone'.toRaw ≤ zone.toRaw) :
    (zone'.duringGrace inGrace).toRaw ≤ (zone.duringGrace inGrace).toRaw ↔
      ¬ (inGrace = true ∧ zone = .emergency ∧ zone' = .protective) := by
  cases zone with
  | other raw => exact absurd rfl (hzone raw)
  | _ =>
      cases zone' with
      | other raw => exact absurd rfl (hzone' raw)
      | _ => cases inGrace <;> revert h <;> decide

/-- An evaluation gives one of the four zones. -/
theorem zoneOf_ne_other {K : Type*} [Field K] [LinearOrder K] {distance buffer : K}
    {required : WithTop K} (raw : UInt8) : zoneOf distance buffer required ≠ .other raw := by
  unfold zoneOf
  split_ifs <;> exact nofun

namespace SafetyEnvelopeNode

variable {K : Type*} [Field K] [LinearOrder K] [SquareRoot K] (n : SafetyEnvelopeNode K)
  (speed : K) (now : ℤ)

theorem evaluate_zone (distance : K) :
    (n.evaluate distance speed).zone =
      zoneOf (distance - n.footprint.frontOverhangM) (n.dynamicBuffer speed)
        (requiredClearance speed n.config.envelope.maxComfortDecelMps2
          n.config.envelope.controlLatencyS (n.dynamicBuffer speed)) := by
  unfold evaluate evaluateStopDistanceOf
  exact evaluateStopDistance_zone ..

theorem publishEnvelope_zone {distance : K} (h : 0 ≤ distance) :
    (n.publishEnvelope (distance : WithTop K) speed now).zone =
      ((n.evaluate distance speed).zone.duringGrace (n.inGracePeriod now)).toRaw := by
  have hvalid : ¬ ((!isFinite distance) = true ∨ distance < 0) := by
    simpa [isFinite] using h
  unfold publishEnvelope
  dsimp only
  rw [if_neg hvalid]
  unfold obstacleStatus modifiedEval SafetyZone.duringGrace
  dsimp only
  split_ifs <;> rfl

variable [IsStrictOrderedRing K]

/-- The zone published for the nearer of two obstacles is at least as severe, unless the node
is in its grace period, the nearer one is an emergency and the other one is not even within
the envelope. -/
theorem publishEnvelope_zone_antitone_iff {d d' : K} (hd : 0 ≤ d) (hle : d ≤ d') :
    (n.publishEnvelope (d' : WithTop K) speed now).zone ≤
        (n.publishEnvelope (d : WithTop K) speed now).zone ↔
      ¬ (n.inGracePeriod now = true ∧ (n.evaluate d speed).zone = .emergency ∧
        (n.evaluate d' speed).zone = .protective) := by
  have hnearer : d - n.footprint.frontOverhangM ≤ d' - n.footprint.frontOverhangM :=
    sub_le_sub_right hle _
  rw [publishEnvelope_zone n speed now hd, publishEnvelope_zone n speed now (hd.trans hle),
    evaluate_zone, evaluate_zone]
  exact SafetyZone.duringGrace_toRaw_le_iff _ zoneOf_ne_other zoneOf_ne_other
    (zoneOf_toRaw_mono hnearer le_rfl le_rfl)

/-- Three seconds after the start an obstacle at half the distance. -/
theorem publishEnvelope_zone_antitone_afterGrace :
    ((membersOf {} 0 : SafetyEnvelopeNode ℝ).publishEnvelope ((2 : ℝ) : WithTop ℝ) 1
        3000000000).zone ≤
      ((membersOf {} 0 : SafetyEnvelopeNode ℝ).publishEnvelope ((1 : ℝ) : WithTop ℝ) 1
        3000000000).zone := by
  refine (publishEnvelope_zone_antitone_iff _ 1 3000000000 (by norm_num) (by norm_num)).2 ?_
  rintro ⟨hgrace, -⟩
  norm_num [inGracePeriod, membersOf] at hgrace

/-- One second after the start, at one metre per second and with the default parameters, the
zone at 35 centimetres is a warning and the one at 50 centimetres is protective. -/
theorem publishEnvelope_zone_duringGrace :
    create ({} : SafetyEnvelopeParams ℝ) 0 = .ok (membersOf {} 0) ∧
      ¬ ((membersOf {} 0 : SafetyEnvelopeNode ℝ).publishEnvelope ((0.5 : ℝ) : WithTop ℝ) 1
          1000000000).zone ≤
        ((membersOf {} 0 : SafetyEnvelopeNode ℝ).publishEnvelope ((0.35 : ℝ) : WithTop ℝ) 1
          1000000000).zone := by
  have hgrace : (membersOf {} 0 : SafetyEnvelopeNode ℝ).inGracePeriod 1000000000 = true := by
    norm_num [inGracePeriod, membersOf]
  have hnear : ((membersOf {} 0 : SafetyEnvelopeNode ℝ).evaluate 0.35 1).zone =
      .emergency := by
    rw [evaluate_zone, zoneOf_eq_emergency_iff]
    norm_num [membersOf, dynamicBuffer, configOf]
  have hfar : ((membersOf {} 0 : SafetyEnvelopeNode ℝ).evaluate 0.5 1).zone =
      .protective := by
    rw [evaluate_zone, requiredClearance_of_decel_pos]
    · norm_num [zoneOf, membersOf, dynamicBuffer, configOf]
    · norm_num [membersOf, configOf]
  refine ⟨create_default 0, ?_⟩
  rw [publishEnvelope_zone _ _ _ (by norm_num), publishEnvelope_zone _ _ _ (by norm_num), hnear,
    hfar, hgrace]
  decide

end SafetyEnvelopeNode

end SafetyCore
