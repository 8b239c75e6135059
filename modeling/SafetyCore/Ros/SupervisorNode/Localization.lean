import SafetyCore.Ros.SupervisorNode.Tick

/-!
# Requests of the localization check

The age that `check_localization_staleness` hands to the supervisor is a
difference modulo `2 ^ 64`. It is the true age unless the stamp of the last
odometry message lies after the clock reading; then the age is close to
`2 ^ 64`, and the check asks for a degraded mode or a stop although the
localization is not old at all. `justifiedRequests_iff` gives the exact
condition under which it asks for nothing that the true age does not justify.
-/

namespace SafetyCore

open Transition

namespace SafetySupervisorNode

section Definitions

variable {α : Type*} [Zero α] [LE α] (p : Params α) (n : SafetySupervisorNode α)
  (now : UInt64)

/-- The node with an empty log of the operations called on its machine. -/
def withoutCalls : SafetySupervisorNode α :=
  { n with machine := { n.machine with calls := [] } }

/-- The operations that the localization check calls on the machine. -/
def localizationRequests : List Op :=
  (n.withoutCalls.checkLocalizationStaleness p now).machine.calls

/-- `Degraded` and `LocalizationLost` are requested only past the timeout, and the
localization fault is latched only from twice the timeout on, by the true age of
the stamp. -/
def JustifiedRequests (lastOdom : UInt64) : Prop :=
  let requests := localizationRequests p n now
  let age : ℤ := (now.toNat : ℤ) - lastOdom.toNat
  let timeout : ℤ := p.localizationTimeoutNs.toNat
  (.transitionTo .degraded ∈ requests ∨ Op.reportLocalizationLost ∈ requests →
      timeout < age) ∧
    (.latchFault SafetySupervisor.kFaultCodeLocalizationLost ∈ requests →
      2 * timeout ≤ age)

end Definitions

section Requests

variable {α : Type*} [Zero α] [LE α] {p : Params α} {n : SafetySupervisorNode α}
  {now lastOdom : UInt64}

/-- What the supervisor asks for when it observes a stale age. -/
def staleRequest (p : Params α) (now lastOdom : UInt64) : Op :=
  if 2 * p.localizationTimeoutNs ≤ TimeUtils.calculateAgeNs lastOdom now then
    .latchFault SafetySupervisor.kFaultCodeLocalizationLost
  else
    .transitionTo .degraded

theorem observedMachine_calls (hT : 0 < p.localizationTimeoutNs)
    (h : TimeUtils.isStale lastOdom now p.localizationTimeoutNs = true) :
    (n.observedMachine p now lastOdom).calls =
      staleRequest p now lastOdom :: n.machine.calls := by
  have hpos : p.localizationTimeoutNs ≠ 0 := UInt64.pos_iff_ne_zero.1 hT
  have hlt : ¬ TimeUtils.calculateAgeNs lastOdom now ≤ p.localizationTimeoutNs := by
    simpa [TimeUtils.isStale] using h
  rw [observedMachine, SafetySupervisor.observeLocalizationAge_fst, Option.getD_some,
    if_neg (not_or.2 ⟨hpos, hlt⟩), staleRequest]
  split
  · exact ModeStateMachine.latchFault_calls _ _
  · exact ModeStateMachine.transitionTo_calls _ _

theorem localizationRequests_of_fresh (ho : n.lastOdomTimeNs = some lastOdom)
    (h : TimeUtils.isStale lastOdom now p.localizationTimeoutNs = false) :
    localizationRequests p n now = [] := by
  rw [localizationRequests, checkLocalizationStaleness_of_fresh]
  · rfl
  · rintro ⟨stamp, hstamp, hstale⟩
    cases hstamp.symm.trans ho
    rw [h] at hstale
    cases hstale

/-- A stale age is observed by the supervisor; after that, the check itself
reports the loss of the localization, or calls nothing more. -/
theorem mem_localizationRequests (ho : n.lastOdomTimeNs = some lastOdom)
    (hT : 0 < p.localizationTimeoutNs)
    (h : TimeUtils.isStale lastOdom now p.localizationTimeoutNs = true) :
    staleRequest p now lastOdom ∈ localizationRequests p n now ∧
      ∀ op ∈ localizationRequests p n now,
        op = staleRequest p now lastOdom ∨ op = Op.reportLocalizationLost := by
  have ho' : n.withoutCalls.lastOdomTimeNs = some lastOdom := ho
  have hcalls := observedMachine_calls (n := n.withoutCalls) hT h
  have hnone : n.withoutCalls.machine.calls = [] := rfl
  rw [hnone] at hcalls
  rw [localizationRequests, checkLocalizationStaleness_eq, ho']
  dsimp only
  split
  · rw [ModeStateMachine.reportLocalizationLost, ModeStateMachine.transitionTo_calls,
      hcalls]
    simp [Op.reportLocalizationLost, or_comm]
  · rw [hcalls]
    simp

theorem timeout_lt_age (h : TimeUtils.isStale lastOdom now p.localizationTimeoutNs = true) :
    p.localizationTimeoutNs.toNat < (TimeUtils.calculateAgeNs lastOdom now).toNat := by
  simpa [TimeUtils.isStale, UInt64.lt_iff_toNat_lt] using h

theorem age_le_timeout
    (h : TimeUtils.isStale lastOdom now p.localizationTimeoutNs = false) :
    (TimeUtils.calculateAgeNs lastOdom now).toNat ≤ p.localizationTimeoutNs.toNat := by
  simpa [TimeUtils.isStale, UInt64.le_iff_toNat_le] using h

/-- Of a stamp that does not lie in the future, the age is the true one. -/
theorem justifiedRequests_of_past (ho : n.lastOdomTimeNs = some lastOdom)
    (hT : 0 < p.localizationTimeoutNs) (hnow : now.toNat < 2 ^ 63)
    (h : TimeUtils.isStale lastOdom now p.localizationTimeoutNs = true)
    (hpast : lastOdom.toNat ≤ now.toNat) : JustifiedRequests p n now lastOdom := by
  have hage := TimeUtils.calculateAgeNs_toNat_of_le (UInt64.le_iff_toNat_le.2 hpast)
  have hlt := timeout_lt_age h
  rw [hage] at hlt
  refine ⟨fun _ => by omega, fun hlatch => ?_⟩
  have hop : Op.latchFault _ = staleRequest p now lastOdom :=
    ((mem_localizationRequests ho hT h).2 _ hlatch).resolve_right
      (by simp [Op.reportLocalizationLost])
  rw [staleRequest] at hop
  split at hop
  · rename_i hcrit
    have htwo : (2 : UInt64).toNat = 2 := rfl
    rw [UInt64.le_iff_toNat_le, UInt64.toNat_mul, htwo, hage] at hcrit
    -- below the true age, the doubled timeout does not overflow
    omega
  · cases hop

/-- The true age of a stamp in the future is negative, and no request is justified. -/
theorem not_justifiedRequests_of_future (ho : n.lastOdomTimeNs = some lastOdom)
    (hT : 0 < p.localizationTimeoutNs)
    (h : TimeUtils.isStale lastOdom now p.localizationTimeoutNs = true)
    (hfuture : now.toNat < lastOdom.toNat) : ¬ JustifiedRequests p n now lastOdom := by
  have hpos : 0 < p.localizationTimeoutNs.toNat := UInt64.lt_iff_toNat_lt.1 hT
  obtain ⟨hmem, -⟩ := mem_localizationRequests ho hT h
  rintro ⟨hdegraded, hlatch⟩
  rw [staleRequest] at hmem
  split at hmem
  · have := hlatch hmem
    omega
  · have := hdegraded (.inl hmem)
    omega

/-- For every last odometry stamp, every clock reading below `2 ^ 63` and every
positive timeout, the requests of the check are justified exactly when the stamp
does not lie in the future, or the age computed modulo `2 ^ 64` is still within
the timeout. -/
theorem justifiedRequests_iff (p : Params α) (n : SafetySupervisorNode α)
    (now lastOdom : UInt64) (ho : n.lastOdomTimeNs = some lastOdom)
    (hT : 0 < p.localizationTimeoutNs) (hnow : now.toNat < 2 ^ 63) :
    JustifiedRequests p n now lastOdom ↔
      (now.toNat < lastOdom.toNat →
        2 ^ 64 - (lastOdom.toNat - now.toNat) ≤ p.localizationTimeoutNs.toNat) := by
  cases h : TimeUtils.isStale lastOdom now p.localizationTimeoutNs with
  | true =>
      rcases Nat.lt_or_ge now.toNat lastOdom.toNat with hfuture | hpast
      · have hlt := timeout_lt_age h
        rw [TimeUtils.calculateAgeNs_toNat_of_lt (UInt64.lt_iff_toNat_lt.2 hfuture)]
          at hlt
        exact iff_of_false (not_justifiedRequests_of_future ho hT h hfuture) (by omega)
      · exact iff_of_true (justifiedRequests_of_past ho hT hnow h hpast) (by omega)
  | false =>
      refine iff_of_true ?_ fun hfuture => ?_
      · simp [JustifiedRequests, localizationRequests_of_fresh ho h]
      · have hle := age_le_timeout h
        rwa [TimeUtils.calculateAgeNs_toNat_of_lt (UInt64.lt_iff_toNat_lt.2 hfuture)]
          at hle

end Requests

/-- The last odometry message is 0.6 s old: `Degraded` is requested with reason. -/
theorem justifiedRequests_iff_late :
    JustifiedRequests Params.default
        ((component Params.default).run (initial Params.default) [.odom 1 0])
        1600000000 1000000000 ↔
      ((1600000000 : UInt64).toNat < (1000000000 : UInt64).toNat →
        2 ^ 64 - ((1000000000 : UInt64).toNat - (1600000000 : UInt64).toNat) ≤
          Params.default.localizationTimeoutNs.toNat) :=
  justifiedRequests_iff Params.default _ 1600000000 1000000000 rfl (by decide)
    (by decide)

/-- The stamp lies one nanosecond ahead of the clock of the node, and the check
latches the localization fault. -/
theorem requests_not_always_justified :
    ¬ ∀ (p : Params ℚ) (es : List Event) (now lastOdom : UInt64),
      ((component p).run (initial p) es).lastOdomTimeNs = some lastOdom →
      0 < p.localizationTimeoutNs → lastOdom.toNat < 2 ^ 63 → now.toNat < 2 ^ 63 →
      JustifiedRequests p ((component p).run (initial p) es) now lastOdom := by
  intro h
  have hlatch := (h Params.default [.envelope 0, .odom 1 1] 1000000000 1000000001 rfl
    (by decide) (by decide) (by decide)).2 (by decide +kernel)
  exact absurd hlatch (by decide)

end SafetySupervisorNode

end SafetyCore
