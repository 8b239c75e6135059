import SafetyCore.Ros.SpeedLimit.SafeStop

/-!
# The ramp of the limit

After a recovery at `startNs` the limit rises linearly from half of the maximum to the
maximum, until another mark comes. `Ramping` is the state of the controller in between: the
start is still recorded, or the ramp has ended before the last reading of the clock.
-/

namespace SafetyCore

open Transition

namespace SpeedLimitController

variable {K : Type*} [Field K] [LinearOrder K]

/-- The limit that an update at `nowNs` returns after a recovery at `startNs`. -/
def rampLimit (maxSpeedMps : K) (rampNs startNs nowNs : UInt64) : K :=
  if rampNs = 0 then maxSpeedMps
  else maxSpeedMps * 0.5 + maxSpeedMps * 0.5 *
    min 1 (((nowNs.toNat - startNs.toNat : ℕ) : K) / (rampNs.toNat : K))

variable [IsStrictOrderedRing K] {maxSpeedMps : K} {rampNs startNs nowNs nowNs' : UInt64}
  {c : SpeedLimitController K}

/-! ## The limit of the ramp -/

omit [LinearOrder K] [IsStrictOrderedRing K] in
theorem mul_half [CharZero K] (speed : K) : speed * 0.5 = speed / 2 := by
  norm_num [div_eq_mul_inv]

theorem rampLimit_of_le (maxSpeedMps : K)
    (h : startNs.toNat + rampNs.toNat ≤ nowNs.toNat) :
    rampLimit maxSpeedMps rampNs startNs nowNs = maxSpeedMps := by
  unfold rampLimit
  split
  case isTrue => rfl
  case isFalse hramp =>
    have hpos : 0 < rampNs.toNat := Nat.pos_of_ne_zero fun hzero =>
      hramp (UInt64.toNat_inj.1 hzero)
    have hcast : (0 : K) < rampNs.toNat := Nat.cast_pos.2 hpos
    have hone : (1 : K) ≤ ((nowNs.toNat - startNs.toNat : ℕ) : K) / (rampNs.toNat : K) := by
      rw [one_le_div hcast, Nat.cast_le]
      omega
    rw [min_eq_left hone, mul_one, mul_half, add_halves]

theorem rampLimit_mono (hmax : 0 ≤ maxSpeedMps) (h : nowNs ≤ nowNs') :
    rampLimit maxSpeedMps rampNs startNs nowNs ≤
      rampLimit maxSpeedMps rampNs startNs nowNs' := by
  have hle : nowNs.toNat ≤ nowNs'.toNat := UInt64.le_iff_toNat_le.1 h
  unfold rampLimit
  split
  · exact le_rfl
  · gcongr

/-- An update while the ramp is under way. -/
theorem rampLimit_of_lt (maxSpeedMps : K) (hle : startNs.toNat ≤ nowNs.toNat)
    (h : ¬ rampNs ≤ nowNs - startNs) :
    rampLimit maxSpeedMps rampNs startNs nowNs =
      maxSpeedMps * 0.5 + (maxSpeedMps - maxSpeedMps * 0.5) *
        (((nowNs - startNs).toNat : K) / (rampNs.toNat : K)) := by
  have hsub : (nowNs - startNs).toNat = nowNs.toNat - startNs.toNat :=
    UInt64.toNat_sub_of_le _ _ (UInt64.le_iff_toNat_le.2 hle)
  rw [UInt64.le_iff_toNat_le, hsub, not_le] at h
  have hpos : (0 : K) < rampNs.toNat := Nat.cast_pos.2 (by omega)
  have hone : ((nowNs.toNat - startNs.toNat : ℕ) : K) / (rampNs.toNat : K) ≤ 1 := by
    rw [div_le_one hpos, Nat.cast_le]
    exact h.le
  have hramp : rampNs ≠ 0 := by
    rintro rfl
    exact absurd h (Nat.not_lt_zero _)
  rw [rampLimit, if_neg hramp, min_eq_right hone, mul_half, hsub, sub_half]

/-! ## The range of the limit -/

/-- The limit is in its range, and a ramp leads to the maximum. -/
structure InRange (c : SpeedLimitController K) : Prop where
  current_nonneg : 0 ≤ c.currentLimitMps
  current_le : c.currentLimitMps ≤ c.maxSpeedMps
  target_nonneg : 0 ≤ c.targetLimitMps
  target_le : c.targetLimitMps ≤ c.maxSpeedMps
  rampTarget : c.rampStartNs ≠ none → c.targetLimitMps = c.maxSpeedMps

omit [IsStrictOrderedRing K] in
theorem inRange_create (hmax : 0 ≤ maxSpeedMps) (rampNs : UInt64) :
    InRange (create maxSpeedMps rampNs) :=
  ⟨hmax, le_rfl, hmax, le_rfl, fun h => absurd rfl h⟩

omit [IsStrictOrderedRing K] in
theorem InRange.maxSpeed_nonneg (h : InRange c) : 0 ≤ c.maxSpeedMps :=
  h.target_nonneg.trans h.target_le

/-- Between the half and the whole of the maximum. -/
theorem interpolated_mem {fraction : K} (hmax : 0 ≤ maxSpeedMps) (hlo : 0 ≤ fraction)
    (hhi : fraction ≤ 1) :
    0 ≤ maxSpeedMps * 0.5 + (maxSpeedMps - maxSpeedMps * 0.5) * fraction ∧
      maxSpeedMps * 0.5 + (maxSpeedMps - maxSpeedMps * 0.5) * fraction ≤ maxSpeedMps := by
  have hrange : 0 ≤ maxSpeedMps / 2 := by linarith
  have hpart := mul_le_of_le_one_right hrange hhi
  rw [mul_half, sub_half]
  constructor
  · positivity
  · linarith

theorem InRange.update (h : InRange c) (nowNs : UInt64) (safeStopActive : Bool) :
    InRange (c.update nowNs safeStopActive) := by
  cases safeStopActive with
  | true =>
      exact ⟨le_rfl, h.maxSpeed_nonneg, le_rfl, h.maxSpeed_nonneg,
        fun hne => absurd rfl hne⟩
  | false =>
      rcases c.update_cases nowNs with ⟨-, heq⟩ | ⟨startNs, -, -, heq⟩ |
        ⟨startNs, hstart, hunder, heq⟩ <;> rw [heq]
      · exact ⟨h.target_nonneg, h.target_le, h.target_nonneg, h.target_le, h.rampTarget⟩
      · exact ⟨h.target_nonneg, h.target_le, h.target_nonneg, h.target_le,
          fun hne => absurd rfl hne⟩
      · have htarget := h.rampTarget (by rw [hstart]; exact Option.some_ne_none startNs)
        rw [UInt64.le_iff_toNat_le, not_le] at hunder
        have hpos : (0 : K) < c.rampNs.toNat := Nat.cast_pos.2 (by omega)
        have hone : ((nowNs - startNs).toNat : K) / (c.rampNs.toNat : K) ≤ 1 := by
          rw [div_le_one hpos, Nat.cast_le]
          exact hunder.le
        obtain ⟨hlo, hhi⟩ := interpolated_mem h.maxSpeed_nonneg (by positivity) hone
        rw [htarget]
        exact ⟨hlo, hhi, h.maxSpeed_nonneg, le_rfl, fun _ => rfl⟩

theorem inRange_preserved : (component (α := K)).Preserved InRange := by
  intro c e h
  have hmax := h.maxSpeed_nonneg
  cases e with
  | update nowNs safeStopActive => exact h.update nowNs safeStopActive
  | onDegraded =>
      have hlo : 0 ≤ c.maxSpeedMps * 0.5 := by
        rw [mul_half]
        linarith
      have hhi : c.maxSpeedMps * 0.5 ≤ c.maxSpeedMps := by
        rw [mul_half]
        linarith
      exact ⟨hlo, hhi, hlo, hhi, fun hne => absurd rfl hne⟩
  | onRecovered nowNs => exact ⟨h.current_nonneg, h.current_le, hmax, le_rfl, fun _ => rfl⟩

/-! ## The half of the maximum -/

/-- Between a degradation and the next recovery. -/
structure Halved (c : SpeedLimitController K) : Prop where
  holdsHalf : c.HoldsHalf
  current_le : c.currentLimitMps ≤ c.maxSpeedMps * 0.5
  maxSpeed_nonneg : 0 ≤ c.maxSpeedMps

theorem halved_onDegraded (hmax : 0 ≤ c.maxSpeedMps) : c.onDegraded.Halved :=
  ⟨holdsHalf_onDegraded c, le_rfl, hmax⟩

theorem Halved.next (h : Halved c) {e : Event} (he : ∀ nowNs, e ≠ .onRecovered nowNs) :
    Halved (component.next c e) := by
  cases e with
  | update nowNs safeStopActive =>
      obtain ⟨hholds, hle⟩ := h.holdsHalf.update h.maxSpeed_nonneg nowNs safeStopActive
      have hkeeps := update_maxSpeedMps c nowNs safeStopActive
      refine ⟨hholds, hle.trans_eq ?_, h.maxSpeed_nonneg.trans_eq hkeeps.symm⟩
      rw [← mul_half, ← hkeeps]
      rfl
  | onDegraded => exact halved_onDegraded h.maxSpeed_nonneg
  | onRecovered nowNs => exact absurd rfl (he nowNs)

theorem Halved.run (h : Halved c) {es : List Event}
    (hes : ∀ e ∈ es, ∀ nowNs, e ≠ .onRecovered nowNs) : Halved (component.run c es) := by
  induction es generalizing c with
  | nil => exact h
  | cons e es ih =>
      rw [List.forall_mem_cons] at hes
      exact ih (h.next hes.1) hes.2

/-! ## The ramp -/

/-- After a recovery at `startNs`, with the last reading of the clock at `lastNs`. -/
structure Ramping (maxSpeedMps : K) (rampNs startNs lastNs : UInt64)
    (c : SpeedLimitController K) : Prop where
  maxSpeed : c.maxSpeedMps = maxSpeedMps
  ramp : c.rampNs = rampNs
  target : c.targetLimitMps = maxSpeedMps
  start_le : startNs.toNat ≤ lastNs.toNat
  started : c.rampStartNs = some startNs ∨
    c.rampStartNs = none ∧ startNs.toNat + rampNs.toNat ≤ lastNs.toNat

omit [Field K] [LinearOrder K] [IsStrictOrderedRing K] in
/-- The ramp under way is the one of the recovery. -/
theorem Ramping.start_eq {lastNs startNs' : UInt64}
    (h : Ramping maxSpeedMps rampNs startNs lastNs c) (hstart : c.rampStartNs = some startNs') :
    startNs' = startNs := by
  rcases h.started with hrecovered | ⟨hended, -⟩
  · exact Option.some.inj (hstart.symm.trans hrecovered)
  · rw [hstart] at hended
    cases hended

/-- An update returns the limit of the ramp. -/
theorem Ramping.update {lastNs : UInt64} (h : Ramping maxSpeedMps rampNs startNs lastNs c)
    (hle : lastNs ≤ nowNs) :
    Ramping maxSpeedMps rampNs startNs nowNs (c.update nowNs false) ∧
      (c.update nowNs false).currentLimitMps = rampLimit maxSpeedMps rampNs startNs nowNs := by
  have hlast : lastNs.toNat ≤ nowNs.toNat := UInt64.le_iff_toNat_le.1 hle
  have hstart := h.start_le.trans hlast
  rcases c.update_cases nowNs with ⟨hnone, heq⟩ | ⟨startNs', hsome, helapsed, heq⟩ |
    ⟨startNs', hsome, hunder, heq⟩ <;> rw [heq]
  · have hended : startNs.toNat + rampNs.toNat ≤ lastNs.toNat := by
      rcases h.started with hsome | ⟨-, hended⟩
      · rw [hnone] at hsome
        cases hsome
      · exact hended
    have hended' := hended.trans hlast
    exact ⟨⟨h.maxSpeed, h.ramp, h.target, hstart, .inr ⟨hnone, hended'⟩⟩,
      h.target.trans (rampLimit_of_le maxSpeedMps hended').symm⟩
  · obtain rfl := h.start_eq hsome
    rw [h.ramp, UInt64.le_iff_toNat_le,
      UInt64.toNat_sub_of_le _ _ (UInt64.le_iff_toNat_le.2 hstart)] at helapsed
    have hended : startNs'.toNat + rampNs.toNat ≤ nowNs.toNat := by omega
    exact ⟨⟨h.maxSpeed, h.ramp, h.target, hstart, .inr ⟨rfl, hended⟩⟩,
      h.target.trans (rampLimit_of_le maxSpeedMps hended).symm⟩
  · obtain rfl := h.start_eq hsome
    rw [h.ramp] at hunder
    refine ⟨⟨h.maxSpeed, h.ramp, h.target, hstart, .inl hsome⟩, ?_⟩
    rw [rampLimit_of_lt maxSpeedMps hstart hunder, ← h.ramp, ← h.maxSpeed, h.target,
      h.maxSpeed]

omit [Field K] [LinearOrder K] [IsStrictOrderedRing K] in
theorem ramping_onRecovered (hmax : c.maxSpeedMps = maxSpeedMps) (hramp : c.rampNs = rampNs)
    (startNs : UInt64) : Ramping maxSpeedMps rampNs startNs startNs (c.onRecovered startNs) :=
  ⟨hmax, hramp, hmax, le_rfl, .inl rfl⟩

/-- The ramp goes on over any number of updates. -/
theorem Ramping.run {lastNs : UInt64} {mid : List Event}
    (h : Ramping maxSpeedMps rampNs startNs lastNs c)
    (hmid : ∀ e ∈ mid, e.mark = none)
    (hchron : (lastNs :: (mid.filterMap Event.stamp ++ [nowNs])).Pairwise (· ≤ ·)) :
    (component.run c (mid ++ [.update nowNs false])).currentLimitMps =
      rampLimit maxSpeedMps rampNs startNs nowNs := by
  induction mid generalizing lastNs c with
  | nil => exact (h.update (List.rel_of_pairwise_cons hchron (List.mem_singleton_self nowNs))).2
  | cons e mid ih =>
      rw [List.forall_mem_cons] at hmid
      obtain ⟨midNs, rfl⟩ := Event.eq_update_of_mark hmid.1
      rw [List.filterMap_cons_some (f := Event.stamp) rfl, List.cons_append] at hchron
      have hle := List.rel_of_pairwise_cons hchron List.mem_cons_self
      exact ih (h.update hle).1 hmid.2 (List.pairwise_cons.1 hchron).2

/-! ## Whole runs -/

/-- The limit after the calls `es`. -/
def limitAfter (maxSpeedMps : K) (rampNs : UInt64) (es : List Event) : K :=
  (component.run (create maxSpeedMps rampNs) es).currentLimitMps

/-- What the calls so far say about the limit. -/
structure RampLaw (maxSpeedMps : K) (rampNs : UInt64) (es : List Event) : Prop where
  nonneg : 0 ≤ limitAfter maxSpeedMps rampNs es
  le_max : limitAfter maxSpeedMps rampNs es ≤ maxSpeedMps
  stopped : ∀ pre nowNs, es = pre ++ [Event.update nowNs true] →
    limitAfter maxSpeedMps rampNs es = 0
  halved : ∀ pre mid, es = pre ++ Event.onDegraded :: mid →
    (∀ e ∈ mid, ∀ nowNs, e ≠ Event.onRecovered nowNs) →
    limitAfter maxSpeedMps rampNs es ≤ maxSpeedMps * 0.5
  ramps : ∀ pre startNs mid nowNs,
    es = pre ++ Event.onRecovered startNs :: (mid ++ [Event.update nowNs false]) →
    (∀ e ∈ mid, e.mark = none) →
    limitAfter maxSpeedMps rampNs es = rampLimit maxSpeedMps rampNs startNs nowNs
  rises : ∀ pre startNs mid nowNs mid' nowNs',
    es = (pre ++ Event.onRecovered startNs :: (mid ++ [Event.update nowNs false])) ++
      (mid' ++ [Event.update nowNs' false]) →
    (∀ e ∈ mid, e.mark = none) → (∀ e ∈ mid', e.mark = none) →
    limitAfter maxSpeedMps rampNs
        (pre ++ Event.onRecovered startNs :: (mid ++ [Event.update nowNs false])) ≤
      limitAfter maxSpeedMps rampNs es
  reaches : ∀ pre startNs mid nowNs,
    es = pre ++ Event.onRecovered startNs :: (mid ++ [Event.update nowNs false]) →
    (∀ e ∈ mid, e.mark = none) → startNs.toNat + rampNs.toNat ≤ nowNs.toNat →
    limitAfter maxSpeedMps rampNs es = maxSpeedMps

theorem inRange_run (hmax : 0 ≤ maxSpeedMps) (rampNs : UInt64) (es : List Event) :
    InRange (component.run (create maxSpeedMps rampNs) es) :=
  inRange_preserved.run (inRange_create hmax rampNs) es

theorem limitAfter_ramp {pre mid : List Event} (maxSpeedMps : K) (rampNs : UInt64)
    (hchron : Chronological
      (pre ++ Event.onRecovered startNs :: (mid ++ [Event.update nowNs false])))
    (hmid : ∀ e ∈ mid, e.mark = none) :
    limitAfter maxSpeedMps rampNs
        (pre ++ Event.onRecovered startNs :: (mid ++ [Event.update nowNs false])) =
      rampLimit maxSpeedMps rampNs startNs nowNs := by
  have htracks := tracks_run maxSpeedMps rampNs pre
  rw [limitAfter, Component.run_append, Component.run_cons]
  rw [Chronological, List.filterMap_append, List.filterMap_cons_some (f := Event.stamp) rfl,
    List.filterMap_append] at hchron
  exact (ramping_onRecovered htracks.maxSpeed htracks.ramp startNs).run hmid
    (List.pairwise_append.1 hchron).2.1

theorem limitAfter_halved {pre mid : List Event} (hmax : 0 ≤ maxSpeedMps) (rampNs : UInt64)
    (hmid : ∀ e ∈ mid, ∀ nowNs, e ≠ Event.onRecovered nowNs) :
    limitAfter maxSpeedMps rampNs (pre ++ Event.onDegraded :: mid) ≤ maxSpeedMps * 0.5 := by
  have htracks := tracks_run maxSpeedMps rampNs pre
  have hnonneg : 0 ≤ (component.run (create maxSpeedMps rampNs) pre).maxSpeedMps :=
    hmax.trans_eq htracks.maxSpeed.symm
  have hhalved :
      Halved (component.run (create maxSpeedMps rampNs) (pre ++ Event.onDegraded :: mid)) := by
    rw [Component.run_append]
    exact (halved_onDegraded hnonneg).run hmid
  have hmaxSpeed := (tracks_run maxSpeedMps rampNs (pre ++ Event.onDegraded :: mid)).maxSpeed
  exact hhalved.current_le.trans_eq (congrArg (· * 0.5) hmaxSpeed)

/-- Two updates of one ramp. -/
theorem limitAfter_rises {pre mid mid' : List Event} (hmax : 0 ≤ maxSpeedMps)
    (rampNs : UInt64)
    (hchron : Chronological
      ((pre ++ Event.onRecovered startNs :: (mid ++ [Event.update nowNs false])) ++
        (mid' ++ [Event.update nowNs' false])))
    (hmid : ∀ e ∈ mid, e.mark = none) (hmid' : ∀ e ∈ mid', e.mark = none) :
    limitAfter maxSpeedMps rampNs
        (pre ++ Event.onRecovered startNs :: (mid ++ [Event.update nowNs false])) ≤
      limitAfter maxSpeedMps rampNs
        ((pre ++ Event.onRecovered startNs :: (mid ++ [Event.update nowNs false])) ++
          (mid' ++ [Event.update nowNs' false])) := by
  have hle : nowNs ≤ nowNs' :=
    hchron.le_of_append (e := Event.update nowNs false) (f := Event.update nowNs' false)
      (by simp) rfl (by simp) rfl
  have hboth : ∀ e ∈ mid ++ Event.update nowNs false :: mid', e.mark = none := by
    intro e he
    rcases List.mem_append.1 he with he | he
    · exact hmid e he
    · rcases List.mem_cons.1 he with rfl | he
      · rfl
      · exact hmid' e he
  have hsplit : (pre ++ Event.onRecovered startNs :: (mid ++ [Event.update nowNs false])) ++
      (mid' ++ [Event.update nowNs' false]) =
        pre ++ Event.onRecovered startNs ::
          ((mid ++ Event.update nowNs false :: mid') ++ [Event.update nowNs' false]) := by
    simp
  rw [limitAfter_ramp maxSpeedMps rampNs hchron.left hmid]
  rw [hsplit] at hchron ⊢
  rw [limitAfter_ramp maxSpeedMps rampNs hchron hboth]
  exact rampLimit_mono hmax hle

theorem rampLaw_of_chronological {es : List Event} (hmax : 0 < maxSpeedMps)
    (rampNs : UInt64) (hchron : Chronological es) : RampLaw maxSpeedMps rampNs es where
  nonneg := (inRange_run hmax.le rampNs es).current_nonneg
  le_max :=
    (inRange_run hmax.le rampNs es).current_le.trans_eq (tracks_run maxSpeedMps rampNs es).maxSpeed
  stopped := by
    rintro pre nowNs rfl
    rw [limitAfter, Component.run_concat]
    rfl
  halved := by
    rintro pre mid rfl hmid
    exact limitAfter_halved hmax.le rampNs hmid
  ramps := by
    rintro pre startNs mid nowNs rfl hmid
    exact limitAfter_ramp maxSpeedMps rampNs hchron hmid
  rises := by
    rintro pre startNs mid nowNs mid' nowNs' rfl hmid hmid'
    exact limitAfter_rises hmax.le rampNs hchron hmid hmid'
  reaches := by
    rintro pre startNs mid nowNs rfl hmid hle
    rw [limitAfter_ramp maxSpeedMps rampNs hchron hmid, rampLimit_of_le maxSpeedMps hle]

/-- A degradation, a recovery, and two updates within the ramp. -/
theorem rampLaw_of_recovery :
    RampLaw (1.5 : ℚ) 5000000000
      [.onDegraded, .onRecovered 1000000000, .update 2000000000 false,
        .update 4000000000 false] :=
  rampLaw_of_chronological (by norm_num) 5000000000 (by decide)

end SpeedLimitController

end SafetyCore
