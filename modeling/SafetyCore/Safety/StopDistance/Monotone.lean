import SafetyCore.Safety.StopDistance

/-!
# Monotonicity of the zones

A zone is decided by three thresholds on the distance: the buffer, the required clearance
and one and a half times the latter. All three only grow when the vehicle is faster, reacts
later, brakes less or keeps a larger buffer, and so does the severity.
-/

namespace SafetyCore

open Arithmetic

variable {K : Type*} [Field K] [LinearOrder K]
  {distance distance' speed speed' decel decel' latency latency' buffer buffer' : K}

/-! ## The required clearance -/

theorem requiredClearance_of_decel_nonpos (hd : decel ≤ 0) :
    requiredClearance speed decel latency buffer = ⊤ := by
  simp [requiredClearance, hd]

theorem requiredClearance_mono [IsStrictOrderedRing K] (hv : speed ≤ speed') (hd : decel' ≤ decel)
    (hl : latency ≤ latency') (hb : buffer ≤ buffer') :
    requiredClearance speed decel latency buffer ≤
      requiredClearance speed' decel' latency' buffer' := by
  rcases le_or_gt decel' 0 with hnone | hpos
  · rw [requiredClearance_of_decel_nonpos hnone]
    exact le_top
  · have hspeed : max 0 speed ≤ max 0 speed' := max_le_max_left 0 hv
    have hlatency : max 0 latency ≤ max 0 latency' := max_le_max_left 0 hl
    have hspeed0 : 0 ≤ max 0 speed := le_max_left _ _
    have hlatency0 : 0 ≤ max 0 latency := le_max_left _ _
    rw [requiredClearance_of_decel_pos _ _ _ (hpos.trans_le hd),
      requiredClearance_of_decel_pos _ _ _ hpos, WithTop.coe_le_coe]
    gcongr

theorem buffer_le_requiredClearance [IsStrictOrderedRing K]
    (speed decel latency buffer : K) :
    (buffer : WithTop K) ≤ requiredClearance speed decel latency buffer := by
  rcases le_or_gt decel 0 with hnone | hpos
  · rw [requiredClearance_of_decel_nonpos hnone]
    exact le_top
  · have hspeed : 0 ≤ max 0 speed := le_max_left _ _
    have hlatency : 0 ≤ max 0 latency := le_max_left _ _
    rw [requiredClearance_of_decel_pos _ _ _ hpos, WithTop.coe_le_coe]
    exact le_add_of_nonneg_left (by positivity)

/-! ## The zone -/

/-- The zone of a distance with the given thresholds. -/
def zoneOf (distance buffer : K) (required : WithTop K) : SafetyZone :=
  if distance < buffer then .emergency
  else if ¬ required ≤ (distance : WithTop K) then .protective
  else if (distance : WithTop K) < required.map (· * 1.5) then .warning
  else .clear

theorem evaluateStopDistance_zone [SquareRoot K]
    (distance speed decel latency buffer : K) :
    (evaluateStopDistance distance speed decel latency buffer).zone =
      zoneOf distance buffer (requiredClearance speed decel latency buffer) := by
  simp only [evaluateStopDistance, zoneOf]
  by_cases hbuffer : distance < buffer
  · simp [hbuffer]
  · by_cases hwithin : requiredClearance speed decel latency buffer ≤ (distance : WithTop K)
    · by_cases hwarning : (distance : WithTop K) <
          (requiredClearance speed decel latency buffer).map (· * 1.5) <;>
        simp [hbuffer, hwithin, hwarning]
    · simp [hbuffer, hwithin]

theorem zoneOf_eq_emergency_iff {required : WithTop K} :
    zoneOf distance buffer required = .emergency ↔ distance < buffer := by
  unfold zoneOf
  split_ifs with hbuffer hwithin hwarning <;> simp [hbuffer]

/-- The two mild zones are the envelope, which lies beyond the buffer. -/
theorem zoneOf_mild_iff {required : WithTop K} (hb : (buffer : WithTop K) ≤ required) :
    zoneOf distance buffer required = .clear ∨ zoneOf distance buffer required = .warning ↔
      required ≤ (distance : WithTop K) := by
  unfold zoneOf
  split_ifs with hbuffer hwithin hwarning
  · have hnot : ¬ required ≤ (distance : WithTop K) :=
      not_le.2 ((WithTop.coe_lt_coe.2 hbuffer).trans_le hb)
    simp [hnot]
  · simpa using hwithin
  · simpa using hwithin
  · simpa using hwithin

variable [IsStrictOrderedRing K]

/-- Larger thresholds and a smaller distance give a zone at least as severe. -/
theorem zoneOf_toRaw_mono {required required' : WithTop K} (hdist : distance ≤ distance')
    (hb : buffer ≤ buffer') (hr : required ≤ required') :
    (zoneOf distance' buffer required).toRaw ≤ (zoneOf distance buffer' required').toRaw := by
  have hscaled : required.map (· * (1.5 : K)) ≤ required'.map (· * (1.5 : K)) := by
    have hmono : Monotone fun x : K => x * (1.5 : K) :=
      monotone_mul_right_of_nonneg (by norm_num)
    exact hmono.withTop_map hr
  have hcoe : (distance : WithTop K) ≤ distance' := WithTop.coe_le_coe.2 hdist
  unfold zoneOf
  by_cases hemergency : distance < buffer'
  · rw [if_pos hemergency]
    split_ifs <;> decide
  · have hfar : ¬ distance' < buffer := fun h =>
      hemergency ((hdist.trans_lt h).trans_le hb)
    rw [if_neg hemergency, if_neg hfar]
    by_cases hprotective : ¬ required' ≤ (distance : WithTop K)
    · rw [if_pos hprotective]
      split_ifs <;> decide
    · have hwithin : required ≤ (distance' : WithTop K) :=
        hr.trans ((not_not.1 hprotective).trans hcoe)
      rw [if_neg hprotective, if_neg (not_not.2 hwithin)]
      by_cases hwarning : (distance : WithTop K) < required'.map (· * 1.5)
      · rw [if_pos hwarning]
        split_ifs <;> decide
      · rw [if_neg hwarning, if_neg fun h =>
          hwarning ((hcoe.trans_lt h).trans_le hscaled)]
        exact UInt8.le_refl _

/-- For all arguments, a nearer, faster, slower reacting, weaker braking vehicle with a larger
buffer needs at least as much clearance, is in a zone at least as severe and inside the
envelope only if the other is. The two mild zones are the envelope, the emergency zone is the
buffer, and a front overhang never makes the zone milder. -/
theorem evaluateStopDistance_severity [SquareRoot K] :
    (∀ {d d' v v' latency latency' buffer buffer' decel decel' : K}, d ≤ d' → v ≤ v' →
      latency ≤ latency' → buffer ≤ buffer' → decel' ≤ decel →
        (evaluateStopDistance d' v decel latency buffer).zone.toRaw ≤
            (evaluateStopDistance d v' decel' latency' buffer').zone.toRaw ∧
          (evaluateStopDistance d' v decel latency buffer).requiredClearance ≤
            (evaluateStopDistance d v' decel' latency' buffer').requiredClearance ∧
          ((evaluateStopDistance d v' decel' latency' buffer').withinEnvelope = true →
            (evaluateStopDistance d' v decel latency buffer).withinEnvelope = true)) ∧
      (∀ d v decel latency buffer : K,
        ((evaluateStopDistance d v decel latency buffer).zone = .clear ∨
            (evaluateStopDistance d v decel latency buffer).zone = .warning ↔
          (evaluateStopDistance d v decel latency buffer).withinEnvelope = true) ∧
        ((evaluateStopDistance d v decel latency buffer).zone = .emergency ↔
          d < buffer)) ∧
      ∀ (d v : K) (envelope : MotionEnvelopeConfig K) (footprint : RobotFootprint K),
        0 ≤ footprint.frontOverhangM →
          (evaluateStopDistanceIn d v envelope).zone.toRaw ≤
            (evaluateStopDistanceOf d v envelope footprint).zone.toRaw := by
  refine ⟨fun hd hv hl hb hdecel => ?_, fun d v decel latency buffer => ?_,
    fun d v envelope footprint hoverhang => ?_⟩
  · have hrequired := requiredClearance_mono hv hdecel hl hb
    refine ⟨?_, hrequired, fun hwithin => ?_⟩
    · rw [evaluateStopDistance_zone, evaluateStopDistance_zone]
      exact zoneOf_toRaw_mono hd hb hrequired
    · rw [evaluateStopDistance_withinEnvelope] at hwithin ⊢
      exact hrequired.trans (hwithin.trans (WithTop.coe_le_coe.2 hd))
  · rw [evaluateStopDistance_zone, evaluateStopDistance_withinEnvelope]
    exact ⟨zoneOf_mild_iff (buffer_le_requiredClearance v decel latency buffer),
      zoneOf_eq_emergency_iff⟩
  · have hnearer : d - footprint.frontOverhangM ≤ d := sub_le_self d hoverhang
    simp only [evaluateStopDistanceIn, evaluateStopDistanceOf, evaluateStopDistance_zone]
    exact zoneOf_toRaw_mono hnearer le_rfl le_rfl

/-- Half the distance to an obstacle, for a vehicle that is faster, reacts later, brakes less and
keeps a larger buffer; and a vehicle with a front overhang. -/
theorem evaluateStopDistance_severity_real :
    ((evaluateStopDistance (2 : ℝ) 1 1 0.04 0.3).zone.toRaw ≤
          (evaluateStopDistance (1 : ℝ) 1.5 0.5 0.05 0.4).zone.toRaw ∧
        (evaluateStopDistance (2 : ℝ) 1 1 0.04 0.3).requiredClearance ≤
          (evaluateStopDistance (1 : ℝ) 1.5 0.5 0.05 0.4).requiredClearance ∧
        ((evaluateStopDistance (1 : ℝ) 1.5 0.5 0.05 0.4).withinEnvelope = true →
          (evaluateStopDistance (2 : ℝ) 1 1 0.04 0.3).withinEnvelope = true)) ∧
      (((evaluateStopDistance (2 : ℝ) 1 1 0.04 0.3).zone = .clear ∨
            (evaluateStopDistance (2 : ℝ) 1 1 0.04 0.3).zone = .warning ↔
          (evaluateStopDistance (2 : ℝ) 1 1 0.04 0.3).withinEnvelope = true) ∧
        ((evaluateStopDistance (2 : ℝ) 1 1 0.04 0.3).zone = .emergency ↔ (2 : ℝ) < 0.3)) ∧
      (evaluateStopDistanceIn (2 : ℝ) 1 makeConfig.envelope).zone.toRaw ≤
        (evaluateStopDistanceOf (2 : ℝ) 1 makeConfig.envelope ⟨0.25⟩).zone.toRaw := by
  obtain ⟨hsevere, hzones, hoverhang⟩ := evaluateStopDistance_severity (K := ℝ)
  refine ⟨hsevere ?_ ?_ ?_ ?_ ?_, hzones 2 1 1 0.04 0.3,
    hoverhang 2 1 makeConfig.envelope ⟨0.25⟩ ?_⟩
  all_goals norm_num

end SafetyCore
