import SafetyCore.Ros.DriveBridge

/-!
# Speeds published during a safe stop

A safe stop interval runs from an `on_safe_stop(true)` that finds the safe stop
inactive to the next `on_safe_stop(false)`. The profile generated at its start
never increases, but a latched fault interrupts it: `control_tick` publishes
zero and leaves the profile where it is, so that clearing the fault inside the
interval resumes the profile at its old speed.

`safeStop_speeds_iff` says that this is the only way the published speeds can
increase: they never do exactly when no tick under a latched fault, with a
positive sample still to be published, is followed in the interval by a tick
that finds the fault cleared.
-/

namespace SafetyCore

open Arithmetic Transition

namespace SafetyDriveBridgeNode

section Pending

variable {α : Type*}

/-- The samples of the stop profile that are still to be published. -/
def pending (n : SafetyDriveBridgeNode α) : List α :=
  if n.stopProfileActive then
    (n.stopProfile.drop n.stopProfileIndex).map TrajectoryPoint.speedMps
  else
    []

theorem pending_of_sample {n : SafetyDriveBridgeNode α} {s : TrajectoryPoint α}
    (ha : n.stopProfileActive = true)
    (hs : n.stopProfile[n.stopProfileIndex]? = some s) :
    n.pending = s.speedMps ::
      (n.stopProfile.drop (n.stopProfileIndex + 1)).map TrajectoryPoint.speedMps := by
  obtain ⟨hlt, hget⟩ := List.getElem?_eq_some_iff.1 hs
  rw [pending, if_pos ha, List.drop_eq_getElem_cons hlt, hget, List.map_cons]

theorem pending_eq_nil [Zero α] {n : SafetyDriveBridgeNode α}
    (h : n.executeStopProfile = none) : n.pending = [] := by
  unfold executeStopProfile at h
  unfold pending
  split
  case isFalse => rfl
  case isTrue ha =>
    rw [if_pos ha, Option.map_eq_none_iff, List.getElem?_eq_none_iff] at h
    rw [List.drop_eq_nil_of_le h, List.map_nil]

end Pending

section Definitions

variable {α : Type*} [Zero α] [Add α] [Mul α] [Div α] [Neg α] [OfScientific α]
  [LT α] [DecidableLT α] [LE α] [DecidableLE α] [FiniteTest α]

/-- The linear speeds published by the control ticks of a run, in order. -/
def publishedSpeeds (p : Params α) (n : SafetyDriveBridgeNode α)
    (es : List (Event α)) : List α :=
  ((component p).outputs n es).filterMap (·.map Twist.linearX)

/-- The step is a control tick under a latched fault that holds back a positive
sample of the stop profile. -/
def HoldsBackSample (n : SafetyDriveBridgeNode α) (e : Event α) : Prop :=
  (∃ now, e = .controlTick now) ∧ n.faultLatched = true ∧ 0 < n.pending.headD 0

/-- The step is a control tick without a latched fault. -/
def TicksWithoutFault (n : SafetyDriveBridgeNode α) (e : Event α) : Prop :=
  (∃ now, e = .controlTick now) ∧ n.faultLatched = false

/-- The speeds never increase, and stay zero from the first zero on. -/
def NeverIncreases (speeds : List α) : Prop :=
  speeds.Pairwise fun x y => y ≤ x ∧ (x = 0 → y = 0)

end Definitions

section Stopping

variable {α : Type*} [LinearOrder α] [Zero α]

/-- Inside a safe stop interval: the safe stop is active, and what is left of
the profile never increases and is never negative. -/
structure Stopping (n : SafetyDriveBridgeNode α) : Prop where
  active : n.safeStopActive = true
  nonneg : ∀ x ∈ n.pending, 0 ≤ x
  sorted : n.pending.Pairwise fun x y => y ≤ x

variable {n : SafetyDriveBridgeNode α}

theorem Stopping.le_head (h : Stopping n) {x : α} (hx : x ∈ n.pending) :
    x ≤ n.pending.headD 0 := by
  have hsorted := h.sorted
  cases hq : n.pending with
  | nil => simp [hq] at hx
  | cons y ys =>
      rw [hq] at hx hsorted
      rcases List.mem_cons.1 hx with rfl | hmem
      · exact le_rfl
      · exact (List.pairwise_cons.1 hsorted).1 x hmem

theorem Stopping.head_nonneg (h : Stopping n) : 0 ≤ n.pending.headD 0 := by
  have hnonneg := h.nonneg
  cases hq : n.pending with
  | nil => exact le_rfl
  | cons y ys => exact hnonneg y (hq ▸ List.mem_cons_self)

end Stopping

section SafeStop

variable {α : Type*} [LinearOrder α] [Zero α] [Add α] [Mul α] [Div α] [Neg α]
  [OfScientific α] [FiniteTest α]

omit [Add α] [Mul α] [Div α] [OfScientific α] [FiniteTest α] in
/-- What a control tick does under a safe stop. -/
theorem controlTick_stopping (p : Params α) {n : SafetyDriveBridgeNode α}
    (now : UInt64) (hstop : n.safeStopActive = true) :
    (n.controlTick p now).1.safeStopActive = true ∧
      (n.controlTick p now).2.linearX =
        (if n.faultLatched then 0 else n.pending.headD 0) ∧
      (n.controlTick p now).1.pending =
        (if n.faultLatched then n.pending else n.pending.tail) := by
  unfold controlTick
  by_cases hf : n.faultLatched = true
  · rw [if_pos hf, if_pos hf, if_pos hf]
    exact ⟨hstop, rfl, rfl⟩
  · rw [if_neg hf, if_neg hf, if_neg hf, if_pos hstop]
    cases hx : n.executeStopProfile with
    | none =>
        have hnil := pending_eq_nil hx
        rw [hnil]
        exact ⟨hstop, rfl, hnil⟩
    | some r =>
        obtain ⟨ha, s, hs, rfl⟩ := executeStopProfile_eq_some_iff.1 hx
        rw [pending_of_sample ha hs]
        refine ⟨hstop, rfl, ?_⟩
        simp [pending, ha]

/-- Other callbacks than `control_tick` do not touch the profile, as long as the
safe stop is not withdrawn. -/
theorem next_stopping (p : Params α) {n : SafetyDriveBridgeNode α} {e : Event α}
    (hstop : n.safeStopActive = true) (he : e ≠ .safeStop false)
    (htick : ¬ ∃ now, e = .controlTick now) :
    ((component p).next n e).safeStopActive = true ∧
      ((component p).next n e).pending = n.pending ∧
      (component p).output n e = none := by
  cases e with
  | safeStop data =>
      cases data with
      | false => exact absurd rfl he
      | true => simp [component, onSafeStop, hstop, pending]
  | controlTick now => exact absurd ⟨now, rfl⟩ htick
  | envelope msg =>
      by_cases hz : msg.zone = 0 <;> simp [component, onEnvelope, pending, hz, hstop]
  | _ => exact ⟨hstop, rfl, rfl⟩

theorem Stopping.next (p : Params α) {n : SafetyDriveBridgeNode α} {e : Event α}
    (h : Stopping n) (he : e ≠ .safeStop false) :
    Stopping ((component p).next n e) := by
  by_cases htick : ∃ now, e = .controlTick now
  · obtain ⟨now, rfl⟩ := htick
    obtain ⟨hstop, -, hpend⟩ := controlTick_stopping p now h.active
    have hsub : (n.controlTick p now).1.pending.Sublist n.pending := by
      rw [hpend]
      split
      · exact List.Sublist.refl _
      · exact List.tail_sublist _
    exact ⟨hstop, fun x hx => h.nonneg x (hsub.subset hx), h.sorted.sublist hsub⟩
  · obtain ⟨hstop, hpend, -⟩ := next_stopping p h.active he htick
    exact ⟨hstop, hpend ▸ h.nonneg, hpend ▸ h.sorted⟩

theorem publishedSpeeds_tick (p : Params α) (n : SafetyDriveBridgeNode α)
    (now : UInt64) (es : List (Event α)) :
    publishedSpeeds p n (.controlTick now :: es) =
      (n.controlTick p now).2.linearX ::
        publishedSpeeds p (n.controlTick p now).1 es := rfl

theorem publishedSpeeds_of_output {p : Params α} {n : SafetyDriveBridgeNode α}
    {e : Event α} (h : (component p).output n e = none) (es : List (Event α)) :
    publishedSpeeds p n (e :: es) = publishedSpeeds p ((component p).next n e) es := by
  simp [publishedSpeeds, h]

/-- Everything published later is zero or still to be published. -/
theorem publishedSpeeds_subset (p : Params α) {n : SafetyDriveBridgeNode α}
    {es : List (Event α)} (h : n.safeStopActive = true)
    (hes : Event.safeStop false ∉ es) :
    ∀ x ∈ publishedSpeeds p n es, x = 0 ∨ x ∈ n.pending := by
  induction es generalizing n with
  | nil => simp [publishedSpeeds]
  | cons e es ih =>
      rw [List.mem_cons, not_or] at hes
      by_cases htick : ∃ now, e = .controlTick now
      · obtain ⟨now, rfl⟩ := htick
        obtain ⟨hstop, hlin, hpend⟩ := controlTick_stopping p now h
        rw [publishedSpeeds_tick]
        intro x hx
        rcases List.mem_cons.1 hx with rfl | hx
        · rw [hlin]
          cases n.faultLatched
          · cases n.pending <;> simp
          · simp
        · refine (ih hstop hes.2 x hx).imp_right fun hmem => ?_
          rw [hpend] at hmem
          split at hmem
          · exact hmem
          · exact List.mem_of_mem_tail hmem
      · obtain ⟨hstop, hpend, hout⟩ := next_stopping p h (Ne.symm hes.1) htick
        rw [publishedSpeeds_of_output hout, ← hpend]
        exact ih hstop hes.2

/-- Without a tick that finds the fault cleared, only zeros are published. -/
theorem publishedSpeeds_zero (p : Params α) {n : SafetyDriveBridgeNode α}
    {es : List (Event α)} (h : n.safeStopActive = true)
    (hes : Event.safeStop false ∉ es)
    (hfault : ¬ (component p).Eventually TicksWithoutFault n es) :
    ∀ x ∈ publishedSpeeds p n es, x = 0 := by
  induction es generalizing n with
  | nil => simp [publishedSpeeds]
  | cons e es ih =>
      rw [List.mem_cons, not_or] at hes
      rw [Component.eventually_cons, not_or] at hfault
      by_cases htick : ∃ now, e = .controlTick now
      · obtain ⟨now, rfl⟩ := htick
        obtain ⟨hstop, hlin, -⟩ := controlTick_stopping p now h
        have hf : n.faultLatched = true := by
          by_contra hf
          exact hfault.1 ⟨⟨now, rfl⟩, by simpa using hf⟩
        rw [publishedSpeeds_tick]
        intro x hx
        rcases List.mem_cons.1 hx with rfl | hx
        · rw [hlin, if_pos hf]
        · exact ih hstop hes.2 hfault.2 x hx
      · obtain ⟨hstop, -, hout⟩ := next_stopping p h (Ne.symm hes.1) htick
        rw [publishedSpeeds_of_output hout]
        exact ih hstop hes.2 hfault.2

/-- With a positive sample to be published and a tick to come that finds the
fault cleared, a positive speed is published. -/
theorem exists_publishedSpeeds_pos (p : Params α) {n : SafetyDriveBridgeNode α}
    {es : List (Event α)} (h : n.safeStopActive = true)
    (hes : Event.safeStop false ∉ es) (hpos : 0 < n.pending.headD 0)
    (hclear : (component p).Eventually TicksWithoutFault n es) :
    ∃ x ∈ publishedSpeeds p n es, 0 < x := by
  induction es generalizing n with
  | nil => exact absurd hclear (by simp)
  | cons e es ih =>
      rw [List.mem_cons, not_or] at hes
      by_cases htick : ∃ now, e = .controlTick now
      · obtain ⟨now, rfl⟩ := htick
        obtain ⟨hstop, hlin, hpend⟩ := controlTick_stopping p now h
        rw [publishedSpeeds_tick]
        by_cases hf : n.faultLatched = true
        · have hlater : (component p).Eventually TicksWithoutFault
              (n.controlTick p now).1 es := by
            refine hclear.resolve_left fun hq => ?_
            exact absurd hq.2 (by simp [hf])
          rw [if_pos hf] at hpend
          obtain ⟨x, hx, hxpos⟩ := ih hstop hes.2 (hpend ▸ hpos) hlater
          exact ⟨x, List.mem_cons_of_mem _ hx, hxpos⟩
        · refine ⟨_, List.mem_cons_self, ?_⟩
          rw [hlin, if_neg hf]
          exact hpos
      · obtain ⟨hstop, hpend, hout⟩ := next_stopping p h (Ne.symm hes.1) htick
        rw [publishedSpeeds_of_output hout]
        exact ih hstop hes.2 (hpend ▸ hpos) (hclear.resolve_left fun hq => htick hq.1)

/-- Only zeros are published exactly when no positive sample waits for a tick that
finds the fault cleared. -/
theorem publishedSpeeds_eq_zero_iff (p : Params α) {n : SafetyDriveBridgeNode α}
    {es : List (Event α)} (h : Stopping n) (hes : Event.safeStop false ∉ es) :
    (∀ x ∈ publishedSpeeds p n es, x = 0) ↔
      ¬ (0 < n.pending.headD 0 ∧ (component p).Eventually TicksWithoutFault n es) := by
  constructor
  · rintro hzero ⟨hpos, hclear⟩
    obtain ⟨x, hx, hxpos⟩ := exists_publishedSpeeds_pos p h.active hes hpos hclear
    exact hxpos.ne' (hzero x hx)
  · intro hnot x hx
    by_cases hpos : 0 < n.pending.headD 0
    · exact publishedSpeeds_zero p h.active hes (fun hq => hnot ⟨hpos, hq⟩) x hx
    · rcases publishedSpeeds_subset p h.active hes x hx with hx0 | hmem
      · exact hx0
      · have hle : x ≤ 0 := (h.le_head hmem).trans (not_lt.1 hpos)
        exact le_antisymm hle (h.nonneg x hmem)

/-- The speeds published from inside a safe stop interval on, up to its end,
never increase exactly when no held back sample is published later. -/
theorem neverIncreases_iff (p : Params α) {n : SafetyDriveBridgeNode α}
    {es : List (Event α)} (h : Stopping n) (hes : Event.safeStop false ∉ es) :
    NeverIncreases (publishedSpeeds p n es) ↔
      ¬ (component p).Precedes HoldsBackSample TicksWithoutFault n es := by
  induction es generalizing n with
  | nil => simp [publishedSpeeds, NeverIncreases]
  | cons e es ih =>
      rw [List.mem_cons, not_or] at hes
      have hnext : Stopping ((component p).next n e) := h.next p (Ne.symm hes.1)
      have ih := ih hnext hes.2
      by_cases htick : ∃ now, e = .controlTick now
      case neg =>
        obtain ⟨-, -, hout⟩ := next_stopping p h.active (Ne.symm hes.1) htick
        rw [publishedSpeeds_of_output hout, ih, Component.precedes_cons]
        simp [HoldsBackSample, htick]
      case pos =>
        obtain ⟨now, rfl⟩ := htick
        obtain ⟨-, hlin, hpend⟩ := controlTick_stopping p now h.active
        rw [publishedSpeeds_tick, Component.precedes_cons, not_or, NeverIncreases,
          List.pairwise_cons]
        refine and_congr ?_ ih
        rw [hlin]
        by_cases hf : n.faultLatched = true
        · -- zero is published and the profile stays where it is
          rw [if_pos hf] at hpend ⊢
          have hiff := publishedSpeeds_eq_zero_iff p hnext hes.2
          have hholds : HoldsBackSample n (.controlTick now) ↔ 0 < n.pending.headD 0 :=
            ⟨fun hq => hq.2.2, fun hq => ⟨⟨now, rfl⟩, hf, hq⟩⟩
          rw [hholds, ← hpend]
          refine Iff.trans ?_ hiff
          refine forall₂_congr fun x _ => ?_
          exact ⟨fun hx => hx.2 rfl, fun hx => ⟨hx.le, fun _ => hx⟩⟩
        · -- the next sample is published
          rw [if_neg hf] at hpend ⊢
          have hfalse : ¬ HoldsBackSample n (.controlTick now) := fun hq => hf hq.2.1
          simp only [hfalse, false_and, not_false_iff, iff_true]
          intro x hx
          have hbounds : 0 ≤ x ∧ x ≤ n.pending.headD 0 := by
            rcases publishedSpeeds_subset p hnext.active hes.2 x hx with rfl | hmem
            · exact ⟨le_rfl, h.head_nonneg⟩
            · refine ⟨hnext.nonneg x hmem, h.le_head ?_⟩
              exact List.mem_of_mem_tail (hpend ▸ hmem)
          exact ⟨hbounds.2, fun hzero => le_antisymm (hzero ▸ hbounds.2) hbounds.1⟩

variable [OrderedArith α]

/-- The interval starts with a whole profile, or with none. -/
theorem stopping_onSafeStop (p : Params α) {n : SafetyDriveBridgeNode α}
    (h : n.safeStopActive = false) : Stopping (n.onSafeStop p true) := by
  obtain ⟨hnonneg, hsorted⟩ := Motion.generateJerkLimitedStopProfile_speeds
    (stdMax 0 n.measuredForwardSpeedMps) p.maxDecelMps2 p.maxJerkMps3
    p.controlPeriodS kStopProfileCapacity
  have hpend : (n.onSafeStop p true).pending = [] ∨
      (n.onSafeStop p true).pending =
        (Motion.generateJerkLimitedStopProfile (stdMax 0 n.measuredForwardSpeedMps)
          p.maxDecelMps2 p.maxJerkMps3 p.controlPeriodS
          kStopProfileCapacity).points.map TrajectoryPoint.speedMps := by
    simp only [onSafeStop, startJerkLimitedStop, pending, h]
    simp only [Bool.not_false, Bool.and_self, Bool.not_true, if_true,
      Bool.false_eq_true, if_false, List.drop_zero]
    split
    · exact .inr rfl
    · exact .inl rfl
  have hactive : (n.onSafeStop p true).safeStopActive = true := by
    simp [onSafeStop, startJerkLimitedStop, h]
  rcases hpend with hpend | hpend
  · exact ⟨hactive, by simp [hpend], by simp [hpend]⟩
  · refine ⟨hactive, ?_, ?_⟩
    · rw [hpend]
      intro x hx
      obtain ⟨s, hs, rfl⟩ := List.mem_map.1 hx
      exact hnonneg s hs
    · rw [hpend]
      exact List.pairwise_map.2 hsorted

/-- Rounding the results of the arithmetic changes nothing in this. -/
theorem stopping_onSafeStop_rounded {K : Type*} [Field K] [LinearOrder K]
    [IsStrictOrderedRing K] {R : Rounding K} (p : Params (Rounded R))
    {n : SafetyDriveBridgeNode (Rounded R)} (h : n.safeStopActive = false) :
    Stopping (n.onSafeStop p true) :=
  stopping_onSafeStop p h

/-- In every run, the speeds published between an `on_safe_stop(true)` that finds
the safe stop inactive and the next `on_safe_stop(false)` never increase exactly
when no tick that holds back a positive sample under a latched fault is followed
in the interval by a tick without one. -/
theorem safeStop_speeds_iff (p : Params α) (pre es : List (Event α))
    (hinactive : ((component p).run initial pre).safeStopActive = false)
    (hes : Event.safeStop false ∉ es) :
    NeverIncreases
        (publishedSpeeds p ((component p).run initial (pre ++ [.safeStop true])) es) ↔
      ¬ (component p).Precedes HoldsBackSample TicksWithoutFault
        ((component p).run initial (pre ++ [.safeStop true])) es := by
  rw [Component.run_concat]
  exact neverIncreases_iff p (stopping_onSafeStop p hinactive) hes

end SafeStop

/-- A robot at 0.1 m/s stops without any fault. -/
theorem safeStop_speeds_iff_two_ticks :
    NeverIncreases
        (publishedSpeeds Params.default
          ((component Params.default).run initial
            ([.odom (1 / 10)] ++ [.safeStop true]))
          [.controlTick 0, .controlTick 50000000]) ↔
      ¬ (component Params.default).Precedes HoldsBackSample TicksWithoutFault
        ((component Params.default).run initial
          ([.odom (1 / 10)] ++ [.safeStop true]))
        [.controlTick 0, .controlTick 50000000] :=
  safeStop_speeds_iff Params.default [.odom (1 / 10)]
    [.controlTick 0, .controlTick 50000000] rfl (by decide)

/-- A fault is latched and cleared during the safe stop of a robot at 0.1 m/s:
the ticks publish 0 and then 0.1. -/
theorem safeStop_speeds_increase :
    ¬ ∀ (p : Params ℚ) (pre es : List (Event ℚ)),
      ((component p).run initial pre).safeStopActive = false →
      Event.safeStop false ∉ es →
      NeverIncreases (publishedSpeeds p
        ((component p).run initial (pre ++ [.safeStop true])) es) := by
  intro h
  have h' := h Params.default [.odom (1 / 10)]
    [.state true, .controlTick 0, .state false, .controlTick 50000000] rfl (by decide)
  have hspeeds : publishedSpeeds Params.default
      ((component Params.default).run initial
        ([.odom (1 / 10)] ++ [.safeStop true]))
      [.state true, .controlTick 0, .state false, .controlTick 50000000] =
        [0, 1 / 10] := by decide +kernel
  rw [hspeeds] at h'
  norm_num [NeverIncreases] at h'

end SafetyDriveBridgeNode

end SafetyCore
