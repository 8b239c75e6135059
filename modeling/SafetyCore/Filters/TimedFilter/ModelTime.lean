import Mathlib.Algebra.Order.Ring.Rat
import Mathlib.Tactic.Ring
import SafetyCore.Filters.TimedFilter

/-!
# The model time of the filters

From its second update on, a filter advances its model by the difference of two timestamps
where the later one lies after the earlier one, by the nominal period where it does not, and
not at all where a stale measurement is rejected. So the model time is the elapsed time
along timestamps that move on and leave no long gap.
-/

namespace SafetyCore

open Transition

variable {σ ι ω K : Type*} [Field K] [LinearOrder K]

/-- The time from the timestamp `a` to the timestamp `b`. -/
def elapsedSeconds (a b : UInt64) : K := ((b.toNat : K) - (a.toNat : K)) * 1e-9

/-- The timestamp `b` follows `a` within the limit for stale measurements. -/
structure Follows (nominal : K) (staleMultiplier : Option K) (a b : UInt64) : Prop where
  pos : 0 < a.toNat
  lt : a.toNat < b.toNat
  fresh : ∀ multiplier ∈ staleMultiplier, elapsedSeconds a b ≤ nominal * multiplier

/-! ## One step -/

section Step

variable {nominal : K} {staleMultiplier : Option K} {a b : UInt64}

omit [LinearOrder K] in
theorem timestampedSeconds_eq_elapsed (nominal : K) (ha : 0 < a.toNat)
    (hlt : a.toNat < b.toNat) : timestampedSeconds nominal a b = elapsedSeconds a b := by
  rw [timestampedSeconds_of_lt nominal ha hlt, Nat.cast_sub hlt.le]
  rfl

theorem stepBetween_of_fresh
    (h : ∀ multiplier ∈ staleMultiplier, timestampedSeconds nominal a b ≤ nominal * multiplier) :
    stepBetween nominal staleMultiplier a b = some (timestampedSeconds nominal a b) := by
  refine if_neg fun hstale => ?_
  obtain ⟨multiplier, hmem, hlt⟩ := (Option.any_eq_true _ _).1 hstale
  exact absurd (of_decide_eq_true hlt) (not_lt.2 (h multiplier hmem))

theorem stepBetween_of_follows (h : Follows nominal staleMultiplier a b) :
    stepBetween nominal staleMultiplier a b = some (elapsedSeconds a b) := by
  have heq := timestampedSeconds_eq_elapsed nominal h.pos h.lt
  rw [stepBetween_of_fresh (by rw [heq]; exact h.fresh), heq]

theorem stepBetween_of_stale (ha : 0 < a.toNat) (hlt : a.toNat < b.toNat) {multiplier : K}
    (hmem : multiplier ∈ staleMultiplier) (hstale : nominal * multiplier < elapsedSeconds a b) :
    stepBetween nominal staleMultiplier a b = none := by
  refine if_pos ((Option.any_eq_true _ _).2 ⟨multiplier, hmem, decide_eq_true ?_⟩)
  rwa [timestampedSeconds_eq_elapsed nominal ha hlt]

end Step

namespace TimedFilter

variable (F : TimedFilter σ ι ω K)

/-- The model time of a run. -/
def modelTime (s : σ) (es : List (ι × UInt64)) : K :=
  ((F.steps.outputs s es).map fun dt => dt.getD 0).sum

/-- How the filter keeps time along a run. -/
structure KeepsTime (s : σ) (es : List (ι × UInt64)) : Prop where
  follows : ∀ pre a b post, es = pre ++ a :: b :: post →
    Follows (F.nominal s) F.staleMultiplier a.2 b.2 →
    F.modelStep (F.timed.run s (pre ++ [a])) b.2 = some (elapsedSeconds a.2 b.2)
  stale : ∀ pre a b post, es = pre ++ a :: b :: post → 0 < a.2.toNat → a.2.toNat < b.2.toNat →
    ∀ multiplier ∈ F.staleMultiplier, F.nominal s * multiplier < elapsedSeconds a.2 b.2 →
    F.modelStep (F.timed.run s (pre ++ [a])) b.2 = none
  fallsBack : ∀ pre a b post, es = pre ++ a :: b :: post →
    ¬ (0 < a.2.toNat ∧ a.2.toNat < b.2.toNat) →
    F.modelStep (F.timed.run s (pre ++ [a])) b.2 = some (F.nominal s)
  elapsed : ∀ first rest, es = first :: rest →
    es.IsChain (fun a b => Follows (F.nominal s) F.staleMultiplier a.2 b.2) →
    F.modelTime (F.timed.next s first) rest =
      elapsedSeconds first.2 ((rest.map Prod.snd).getLastD first.2)

theorem nominal_run (s : σ) (es : List (ι × UInt64)) :
    F.nominal (F.timed.run s es) = F.nominal s := by
  induction es generalizing s with
  | nil => rfl
  | cons e es ih => rw [Component.run_cons, ih]; exact F.nominal_updateTimestamped s e.1 e.2

/-- The step after an update with the timestamp `a`. -/
theorem modelStep_concat (s : σ) (pre : List (ι × UInt64)) (a : ι × UInt64) (t : UInt64) :
    F.modelStep (F.timed.run s (pre ++ [a])) t =
      stepBetween (F.nominal s) F.staleMultiplier a.2 t := by
  rw [F.modelStep_eq, F.nominal_run, Component.run_concat]
  congr 1
  exact F.last_updateTimestamped _ a.1 a.2

variable [IsStrictOrderedRing K]

/-- The nominal period is not stale. -/
theorem stepBetween_nominal (s : σ) {a b : UInt64}
    (h : timestampedSeconds (F.nominal s) a b = F.nominal s) :
    stepBetween (F.nominal s) F.staleMultiplier a b = some (F.nominal s) := by
  rw [stepBetween_of_fresh, h]
  intro multiplier hmem
  rw [h]
  exact le_mul_of_one_le_right (F.nominal_pos s).le (F.one_le_staleMultiplier multiplier hmem)

theorem modelTime_eq_elapsed (s : σ) (first : ι × UInt64) (rest : List (ι × UInt64))
    (h : (first :: rest).IsChain fun a b => Follows (F.nominal s) F.staleMultiplier a.2 b.2) :
    F.modelTime (F.timed.next s first) rest =
      elapsedSeconds first.2 ((rest.map Prod.snd).getLastD first.2) := by
  induction rest generalizing s first with
  | nil => simp [modelTime, elapsedSeconds]
  | cons b rest ih =>
      obtain ⟨hfollows, hrest⟩ := List.isChain_cons_cons.1 h
      have hnominal : F.nominal (F.timed.next s first) = F.nominal s :=
        F.nominal_updateTimestamped s first.1 first.2
      have hstep : F.modelStep (F.timed.next s first) b.2 =
          some (elapsedSeconds first.2 b.2) := by
        have hconcat := F.modelStep_concat s [] first b.2
        rw [stepBetween_of_follows hfollows] at hconcat
        exact hconcat
      have htail := ih (F.timed.next s first) b (by rwa [hnominal])
      have hcons : F.modelTime (F.timed.next s first) (b :: rest) =
          (F.modelStep (F.timed.next s first) b.2).getD 0 +
            F.modelTime (F.timed.next (F.timed.next s first) b) rest :=
        List.sum_cons
      rw [hcons, hstep, htail, Option.getD_some, List.map_cons, List.getLastD_cons]
      simp only [elapsedSeconds]
      ring

theorem keepsTime (s : σ) (es : List (ι × UInt64)) : F.KeepsTime s es where
  follows pre a b post _ h := by rw [F.modelStep_concat, stepBetween_of_follows h]
  stale pre a b post _ ha hlt multiplier hmem hstale := by
    rw [F.modelStep_concat, stepBetween_of_stale ha hlt hmem hstale]
  fallsBack pre a b post _ h := by
    rw [F.modelStep_concat, F.stepBetween_nominal s (timestampedSeconds_of_not_lt _ h)]
  elapsed := by
    rintro first rest rfl h
    exact F.modelTime_eq_elapsed s first rest h

/-- Every step is the difference of the timestamps. -/
def StepsAsElapsed (s : σ) (es : List (ι × UInt64)) : Prop :=
  ∀ pre a b post, es = pre ++ a :: b :: post →
    F.modelStep (F.timed.run s (pre ++ [a])) b.2 = some (elapsedSeconds a.2 b.2)

/-- A repeated timestamp advances every filter by its nominal period. -/
theorem not_stepsAsElapsed (s : σ) (i : ι) (t : UInt64) :
    ¬ F.StepsAsElapsed s [(i, t), (i, t)] := by
  intro h
  have hsame : ¬ (0 < t.toNat ∧ t.toNat < t.toNat) := fun hlt => lt_irrefl _ hlt.2
  have hstep := h [] (i, t) (i, t) [] rfl
  rw [F.modelStep_concat, F.stepBetween_nominal s (timestampedSeconds_of_not_lt _ hsame),
    elapsedSeconds, sub_self, zero_mul] at hstep
  exact (F.nominal_pos s).ne' (Option.some.inj hstep)

end TimedFilter

/-! ## The three filters -/

/-- For every filter, reset and run of timestamped updates. -/
theorem filters_keepTime [IsStrictOrderedRing K] :
    (∀ (f : AlphaBetaFilter K) position velocity es,
        alphaBeta.KeepsTime (f.reset position velocity) es) ∧
      (∀ (f : ComplementaryFilter K) state es,
        complementary.KeepsTime (f.reset state) es) ∧
      ∀ (f : BoundedEkfFilter K) position velocity es,
        boundedEkf.KeepsTime (f.reset position velocity) es :=
  ⟨fun f position velocity es => alphaBeta.keepsTime (f.reset position velocity) es,
    fun f state es => complementary.keepsTime (f.reset state) es,
    fun f position velocity es => boundedEkf.keepsTime (f.reset position velocity) es⟩

/-- Three updates at 100, 200 and 400 nanoseconds. -/
theorem filters_keepTime_three :
    alphaBeta.modelTime (alphaBeta.timed.next
        ((AlphaBetaFilter.initial : AlphaBetaFilter ℚ).reset 0 0) (1, 100)) [(2, 200), (5, 400)] =
      elapsedSeconds 100 400 := by
  have hchain : ([(1, 100), (2, 200), (5, 400)] : List (ℚ × UInt64)).IsChain fun a b =>
      Follows (alphaBeta.nominal ((AlphaBetaFilter.initial : AlphaBetaFilter ℚ).reset 0 0))
        alphaBeta.staleMultiplier a.2 b.2 := by
    rw [List.isChain_cons_cons, List.isChain_cons_cons]
    exact ⟨⟨by decide, by decide, nofun⟩, ⟨by decide, by decide, nofun⟩, .singleton _⟩
  exact (filters_keepTime.1 AlphaBetaFilter.initial 0 0 _).elapsed _ _ rfl hchain

/-- Two updates with the same timestamp, for each of the filters. -/
theorem not_always_stepsAsElapsed :
    (¬ ∀ (f : AlphaBetaFilter ℚ) position velocity es,
        (es.map Prod.snd).Pairwise (· ≤ ·) →
        alphaBeta.StepsAsElapsed (f.reset position velocity) es) ∧
      (¬ ∀ (f : ComplementaryFilter ℚ) state es, (es.map Prod.snd).Pairwise (· ≤ ·) →
        complementary.StepsAsElapsed (f.reset state) es) ∧
      ¬ ∀ (f : BoundedEkfFilter ℚ) position velocity es,
        (es.map Prod.snd).Pairwise (· ≤ ·) →
        boundedEkf.StepsAsElapsed (f.reset position velocity) es := by
  refine ⟨fun h => ?_, fun h => ?_, fun h => ?_⟩
  · exact alphaBeta.not_stepsAsElapsed _ 0 1
      (h .initial 0 0 [(0, 1), (0, 1)] (by simp))
  · exact complementary.not_stepsAsElapsed _ (0, 0) 1
      (h .initial 0 [((0, 0), 1), ((0, 0), 1)] (by simp))
  · exact boundedEkf.not_stepsAsElapsed _ (0, 0) 1
      (h .initial 0 0 [((0, 0), 1), ((0, 0), 1)] (by simp))

end SafetyCore
