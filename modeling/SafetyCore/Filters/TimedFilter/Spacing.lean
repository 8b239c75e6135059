import SafetyCore.Filters.TimedFilter.ModelTime

/-!
# Evenly spaced timestamps

Along timestamps that are one control period apart, the step of every timestamped update is
the nominal period, so the two updates of a filter agree: the timed filter and the untimed
one differ in the recorded timestamp only.
-/

namespace SafetyCore

open Transition

variable {σ ι ω K : Type*} [Field K] [LinearOrder K]

/-- The control period in nanoseconds; a loop without a configuration takes 100 ms. -/
def controlPeriodNs (config : Option (SystemConfig K)) : ℤ :=
  match config with
  | none => 100000000
  | some cfg => cfg.timing.controlPeriod

/-- The timestamps of a run are one control period apart. -/
def Spaced (config : Option (SystemConfig K)) (es : List (ι × UInt64)) : Prop :=
  es.IsChain fun a b => (b.2.toNat : ℤ) - (a.2.toNat : ℤ) = controlPeriodNs config

namespace TimedFilter

variable (F : TimedFilter σ ι ω K)

/-- After every step of the run the timed filter is the untimed one, up to the recorded
timestamp, and it has returned the same. -/
structure MatchesUntimed (s : σ) (es : List (ι × UInt64)) : Prop where
  states : ∀ pre, pre <+: es →
    F.record (F.timed.run s pre) 0 = F.record (F.untimed.run s (pre.map Prod.fst)) 0
  returns : F.timed.outputs s es = F.untimed.outputs s (es.map Prod.fst)

/-- The timed filter `s` is the untimed filter `t`, up to the recorded timestamp. -/
structure Agrees (nominal : K) (s t : σ) : Prop where
  nominal : F.nominal s = nominal
  record : F.record s 0 = F.record t 0

variable [IsStrictOrderedRing K] {F}

theorem agrees_updateTimestamped {nominal : K} {s t : σ} (h : F.Agrees nominal s t)
    (i : ι) {next : UInt64} (hstep : timestampedSeconds nominal (F.last s) next = nominal) :
    F.Agrees nominal (F.updateTimestamped s i next).1 (F.update t i).1 ∧
      (F.updateTimestamped s i next).2 = (F.update t i).2 := by
  have hnominal : F.nominal t = nominal := by
    rw [← F.nominal_record t 0, ← h.record, F.nominal_record, h.nominal]
  have hs := F.advance_record s i nominal 0
  have ht := F.advance_record t i nominal 0
  rw [h.record, ht] at hs
  obtain ⟨hstates, hreturns⟩ := Prod.mk.inj hs
  rw [← h.nominal] at hstep
  rw [F.updateTimestamped_eq, F.modelStep_eq, F.stepBetween_nominal s hstep, Option.elim_some,
    F.advance_record, F.update_eq, hnominal, h.nominal]
  refine ⟨⟨?_, ?_⟩, hreturns.symm⟩
  · rw [F.nominal_record, F.nominal_advance, h.nominal]
  · rw [F.record_record]
    exact hstates.symm

theorem lockstep {s : σ} {es : List (ι × UInt64)} (hlast : F.last s = 0)
    (hes : es.IsChain fun a b => timestampedSeconds (F.nominal s) a.2 b.2 = F.nominal s) :
    F.Agrees (F.nominal s) (F.timed.run s es) (F.untimed.run s (es.map Prod.fst)) ∧
      F.timed.outputs s es = F.untimed.outputs s (es.map Prod.fst) := by
  have hhead : ∀ e ∈ es.head?,
      timestampedSeconds (F.nominal s) (F.last s) e.2 = F.nominal s := by
    intro e _
    rw [hlast]
    exact timestampedSeconds_of_not_lt _ fun h => absurd h.1 (lt_irrefl 0)
  have halong : F.timed.Along
      (fun t e => timestampedSeconds (F.nominal s) (F.last t) e.2 = F.nominal s) s es :=
    Component.along_of_isChain
      (R := fun a b => timestampedSeconds (F.nominal s) a b = F.nominal s)
      (fun t e => F.last_updateTimestamped t e.1 e.2) hhead hes
  have hstart : F.Agrees (F.nominal s) s s := ⟨rfl, rfl⟩
  exact halong.lockstep (D := F.untimed) (R := F.Agrees (F.nominal s))
    (fun _ _ e hstep h => agrees_updateTimestamped h e.1 hstep) hstart

theorem matchesUntimed {s : σ} {es : List (ι × UInt64)} (hlast : F.last s = 0)
    (hes : es.IsChain fun a b => timestampedSeconds (F.nominal s) a.2 b.2 = F.nominal s) :
    F.MatchesUntimed s es where
  states pre hpre := by
    have hchain := List.IsChain.prefix hes hpre
    exact (lockstep hlast hchain).1.record
  returns := (lockstep hlast hes).2

end TimedFilter

/-- One control period between two timestamps is the nominal step. -/
theorem timestampedSeconds_spaced [IsStrictOrderedRing K] {config : Option (SystemConfig K)}
    {a b : UInt64} (h : (b.toNat : ℤ) - (a.toNat : ℤ) = controlPeriodNs config) :
    timestampedSeconds (controlPeriodSeconds config) a b = controlPeriodSeconds config := by
  by_cases hlt : 0 < a.toNat ∧ a.toNat < b.toNat
  · have hcast : elapsedSeconds a b = (controlPeriodNs config : K) * 1e-9 := by
      rw [elapsedSeconds, ← h]
      push_cast
      rfl
    rw [timestampedSeconds_eq_elapsed _ hlt.1 hlt.2, hcast]
    cases config with
    | none => norm_num [controlPeriodNs, controlPeriodSeconds]
    | some cfg =>
        have hpos : 0 < cfg.timing.controlPeriod := by
          have hperiod : (b.toNat : ℤ) - a.toNat = cfg.timing.controlPeriod := h
          omega
        rw [controlPeriodSeconds, if_pos hpos, BoundedEkfFilter.seconds, controlPeriodNs]
        norm_num [div_eq_mul_inv]
  · exact timestampedSeconds_of_not_lt _ hlt

theorem Spaced.isChain [IsStrictOrderedRing K] {config : Option (SystemConfig K)}
    {es : List (ι × UInt64)} (h : Spaced config es) :
    es.IsChain fun a b => timestampedSeconds (controlPeriodSeconds config) a.2 b.2 =
      controlPeriodSeconds config :=
  h.imp fun _ _ => timestampedSeconds_spaced

/-- For every filter, reset and run of inputs with timestamps one control period apart: the
timed filter matches the untimed one. -/
theorem filters_matchUntimed [IsStrictOrderedRing K] :
    (∀ (f : AlphaBetaFilter K) position velocity es, Spaced f.config es →
        alphaBeta.MatchesUntimed (f.reset position velocity) es) ∧
      (∀ (f : ComplementaryFilter K) state es, Spaced f.config es →
        complementary.MatchesUntimed (f.reset state) es) ∧
      ∀ (f : BoundedEkfFilter K) position velocity es, Spaced f.config es →
        boundedEkf.MatchesUntimed (f.reset position velocity) es :=
  ⟨fun _ _ _ _ h => TimedFilter.matchesUntimed rfl h.isChain,
    fun _ _ _ h => TimedFilter.matchesUntimed rfl h.isChain,
    fun _ _ _ _ h => TimedFilter.matchesUntimed rfl h.isChain⟩

/-- Three inputs, 100 ms apart. -/
def threeInputs (input : ι) : List (ι × UInt64) :=
  [(input, 1000000000), (input, 1100000000), (input, 1200000000)]

theorem threeInputs_spaced (input : ι) :
    Spaced (none : Option (SystemConfig ℚ)) (threeInputs input) := by
  have hfirst : ((1100000000 : UInt64).toNat : ℤ) - ((1000000000 : UInt64).toNat : ℤ) =
    controlPeriodNs (none : Option (SystemConfig ℚ)) := by decide
  have hsecond : ((1200000000 : UInt64).toNat : ℤ) - ((1100000000 : UInt64).toNat : ℤ) =
    controlPeriodNs (none : Option (SystemConfig ℚ)) := by decide
  exact .cons_cons hfirst (.cons_cons hsecond (.singleton _))

theorem filters_matchUntimed_three :
    alphaBeta.MatchesUntimed ((.initial : AlphaBetaFilter ℚ).reset 0 1) (threeInputs 0.1) ∧
      complementary.MatchesUntimed ((.initial : ComplementaryFilter ℚ).reset 0)
        (threeInputs (0.1, 0)) ∧
      boundedEkf.MatchesUntimed ((.initial : BoundedEkfFilter ℚ).reset 0 1)
        (threeInputs (0.1, 0)) := by
  obtain ⟨halpha, hcomplementary, hekf⟩ := filters_matchUntimed (K := ℚ)
  exact ⟨halpha .initial 0 1 _ (threeInputs_spaced _),
    hcomplementary .initial 0 _ (threeInputs_spaced _),
    hekf .initial 0 1 _ (threeInputs_spaced _)⟩

end SafetyCore
