import Mathlib.Tactic.NormNum
import SafetyCore.Filters.AlphaBeta
import SafetyCore.Filters.Complementary

/-!
# Filters with timestamps

A `TimedFilter` says what the three filters have in common: what an update does with a time
step, the step that a timestamped update takes, and that the step depends on the last
timestamp and the nominal period only. An update without a step records its timestamp and
leaves the estimate as it is.
-/

namespace SafetyCore

open Arithmetic Transition

/-- The step from the timestamp `last` to the timestamp `next`. A step of more than
`staleMultiplier` nominal periods is not taken. -/
def stepBetween {K : Type*} [Field K] [LinearOrder K] (nominal : K)
    (staleMultiplier : Option K) (last next : UInt64) : Option K :=
  let dt := timestampedSeconds nominal last next
  if staleMultiplier.any fun multiplier => nominal * multiplier < dt then none else some dt

/-- A filter with states `σ`, inputs `ι` and returned values `ω`. -/
structure TimedFilter (σ ι ω K : Type*) [Field K] [LinearOrder K] where
  update : σ → ι → σ × ω
  updateTimestamped : σ → ι → UInt64 → σ × ω
  /-- What an update does with a time step. -/
  advance : σ → ι → K → σ × ω
  /-- What an update without a step returns. -/
  idle : σ → ω
  /-- The time step of a timestamped update. -/
  modelStep : σ → UInt64 → Option K
  last : σ → UInt64
  record : σ → UInt64 → σ
  nominal : σ → K
  staleMultiplier : Option K
  last_record : ∀ s t, last (record s t) = t
  record_record : ∀ s t t', record (record s t) t' = record s t'
  nominal_record : ∀ s t, nominal (record s t) = nominal s
  nominal_advance : ∀ s i dt, nominal (advance s i dt).1 = nominal s
  advance_record : ∀ s i dt t,
    advance (record s t) i dt = (record (advance s i dt).1 t, (advance s i dt).2)
  update_eq : ∀ s i, update s i = advance s i (nominal s)
  updateTimestamped_eq : ∀ s i t, updateTimestamped s i t =
    (modelStep s t).elim (record s t, idle s) (advance (record s t) i)
  modelStep_eq : ∀ s t, modelStep s t = stepBetween (nominal s) staleMultiplier (last s) t
  nominal_pos : ∀ s, 0 < nominal s
  one_le_staleMultiplier : ∀ multiplier ∈ staleMultiplier, 1 ≤ multiplier

namespace TimedFilter

variable {σ ι ω K : Type*} [Field K] [LinearOrder K] (F : TimedFilter σ ι ω K)

/-- The filter driven by inputs. -/
def untimed : Component σ ι ω where
  next s i := (F.update s i).1
  output s i := (F.update s i).2

/-- The filter driven by inputs with timestamps. -/
def timed : Component σ (ι × UInt64) ω where
  next s e := (F.updateTimestamped s e.1 e.2).1
  output s e := (F.updateTimestamped s e.1 e.2).2

/-- The same filter, read by its time steps. -/
def steps : Component σ (ι × UInt64) (Option K) where
  next := F.timed.next
  output s e := F.modelStep s e.2

@[simp] theorem last_updateTimestamped (s : σ) (i : ι) (t : UInt64) :
    F.last (F.updateTimestamped s i t).1 = t := by
  rw [F.updateTimestamped_eq]
  cases F.modelStep s t with
  | none => exact F.last_record s t
  | some dt =>
      rw [Option.elim_some, F.advance_record]
      exact F.last_record _ t

@[simp] theorem nominal_updateTimestamped (s : σ) (i : ι) (t : UInt64) :
    F.nominal (F.updateTimestamped s i t).1 = F.nominal s := by
  rw [F.updateTimestamped_eq]
  cases F.modelStep s t with
  | none => exact F.nominal_record s t
  | some dt => rw [Option.elim_some, F.nominal_advance, F.nominal_record]

end TimedFilter

/-! ## The three filters -/

section Filters

variable {K : Type*} [Field K] [LinearOrder K] [IsStrictOrderedRing K]

theorem controlPeriodSeconds_pos (config : Option (SystemConfig K)) :
    0 < controlPeriodSeconds config := by
  unfold controlPeriodSeconds
  split
  · norm_num
  · split
    case isTrue hpos =>
      have hcast : (0 : K) < (_ : ℤ) := Int.cast_pos.2 hpos
      exact div_pos hcast (by norm_num)
    case isFalse => norm_num

omit [LinearOrder K] [IsStrictOrderedRing K] in
/-- Where a timestamp lies after its predecessor, the step is their difference. -/
theorem timestampedSeconds_of_lt (nominal : K) {last next : UInt64} (hlast : 0 < last.toNat)
    (hnext : last.toNat < next.toNat) :
    timestampedSeconds nominal last next = ((next.toNat - last.toNat : ℕ) : K) * 1e-9 := by
  have hsub : (next - last).toNat = next.toNat - last.toNat :=
    UInt64.toNat_sub_of_le _ _ (UInt64.le_iff_toNat_le.2 hnext.le)
  have hlater : (decide (last > 0) && decide (next > last)) = true := by
    simp only [gt_iff_lt, UInt64.lt_iff_toNat_lt, Bool.and_eq_true, decide_eq_true_eq]
    exact ⟨hlast, hnext⟩
  rw [timestampedSeconds, if_pos hlater, hsub, Int.cast_natCast]

omit [LinearOrder K] [IsStrictOrderedRing K] in
/-- Where the timestamps give no step, it is the nominal period. -/
theorem timestampedSeconds_of_not_lt (nominal : K) {last next : UInt64}
    (h : ¬ (0 < last.toNat ∧ last.toNat < next.toNat)) :
    timestampedSeconds nominal last next = nominal := by
  refine if_neg fun hlater => h ?_
  simp only [gt_iff_lt, UInt64.lt_iff_toNat_lt, Bool.and_eq_true, decide_eq_true_eq] at hlater
  exact hlater

theorem timestampedSeconds_pos {nominal : K} (hnominal : 0 < nominal) (last next : UInt64) :
    0 < timestampedSeconds nominal last next := by
  by_cases h : 0 < last.toNat ∧ last.toNat < next.toNat
  · have hcast : (0 : K) < (next.toNat - last.toNat : ℕ) :=
      Nat.cast_pos.2 (Nat.sub_pos_of_lt h.2)
    rw [timestampedSeconds_of_lt nominal h.1 h.2]
    exact mul_pos hcast (by norm_num)
  · rw [timestampedSeconds_of_not_lt nominal h]
    exact hnominal

/-- In exact arithmetic a step is positive, so the second check of the step does nothing. -/
def alphaBeta : TimedFilter (AlphaBetaFilter K) K K K where
  update f measurement := (f.update measurement, (f.update measurement).position)
  updateTimestamped f measurement t :=
    (f.updateTimestamped measurement t, (f.updateTimestamped measurement t).position)
  advance f measurement dt := (f.advance measurement dt, (f.advance measurement dt).position)
  idle f := f.position
  modelStep f t := some (f.timestampedDt t)
  last f := f.lastTimestampNs
  record f t := { f with lastTimestampNs := t }
  nominal f := f.dtSeconds
  staleMultiplier := none
  last_record _ _ := rfl
  record_record _ _ _ := rfl
  nominal_record _ _ := rfl
  nominal_advance _ _ _ := rfl
  advance_record _ _ _ _ := rfl
  update_eq _ _ := rfl
  updateTimestamped_eq _ _ _ := rfl
  modelStep_eq f t := by
    have hpos : 0 < timestampedSeconds f.dtSeconds f.lastTimestampNs t :=
      timestampedSeconds_pos (controlPeriodSeconds_pos f.config) f.lastTimestampNs t
    rw [AlphaBetaFilter.timestampedDt, if_neg (not_le.2 hpos)]
    rfl
  nominal_pos f := controlPeriodSeconds_pos f.config
  one_le_staleMultiplier := nofun

def complementary : TimedFilter (ComplementaryFilter K) (K × K) K K where
  update f i := (f.update i.1 i.2, (f.update i.1 i.2).state)
  updateTimestamped f i t :=
    (f.updateTimestamped i.1 i.2 t, (f.updateTimestamped i.1 i.2 t).state)
  advance f i dt := (f.advance i.1 i.2 dt, (f.advance i.1 i.2 dt).state)
  idle f := f.state
  modelStep f t := some (f.timestampedDt t)
  last f := f.lastTimestampNs
  record f t := { f with lastTimestampNs := t }
  nominal f := f.dtSeconds
  staleMultiplier := none
  last_record _ _ := rfl
  record_record _ _ _ := rfl
  nominal_record _ _ := rfl
  nominal_advance _ _ _ := rfl
  advance_record _ _ _ _ := rfl
  update_eq _ _ := rfl
  updateTimestamped_eq _ _ _ := rfl
  modelStep_eq _ _ := rfl
  nominal_pos f := controlPeriodSeconds_pos f.config
  one_le_staleMultiplier := nofun

namespace BoundedEkfFilter

omit [IsStrictOrderedRing K] in
theorem correct_config (f : BoundedEkfFilter K) (measurement : K) :
    (f.correct measurement).filter.config = f.config := by
  rcases f.correct_cases measurement with ⟨-, heq⟩ | ⟨-, heq⟩ | ⟨-, x, v, healthy, heq⟩ <;>
    rw [heq]

omit [IsStrictOrderedRing K] in
/-- A correction does not read the timestamp. -/
theorem correct_record (f : BoundedEkfFilter K) (measurement : K) (t : UInt64) :
    { f with lastTimestampNs := t }.correct measurement =
      { f.correct measurement with
        filter := { (f.correct measurement).filter with lastTimestampNs := t } } := by
  let g : BoundedEkfFilter K := { f with lastTimestampNs := t }
  have hvariance : g.innovationVariance = f.innovationVariance := rfl
  have hinvalid : g.invalidInnovationVariance = f.invalidInnovationVariance := rfl
  have hgate : ∀ innovation s, g.innovationGate innovation s = f.innovationGate innovation s :=
    fun _ _ => rfl
  change g.correct measurement = _
  unfold correct
  simp only [hvariance, hinvalid, hgate]
  split
  · rfl
  · split <;> rfl

omit [IsStrictOrderedRing K] in
theorem updateTimestamped_exact (f : BoundedEkfFilter K) (measurement accel : K) (t : UInt64) :
    f.updateTimestamped measurement accel t =
      if f.dtSeconds * kStaleMeasurementMultiplier < f.timestampedDt t then
        ⟨{ f with lastTimestampNs := t }, f.healthy, .staleMeasurement⟩
      else
        ({ f with lastTimestampNs := t }.predict accel (f.timestampedDt t)).correct
          measurement :=
  if_neg (by simp [isFinite])

end BoundedEkfFilter

/-- In exact arithmetic every input is finite. -/
def boundedEkf : TimedFilter (BoundedEkfFilter K) (K × K) Bool K where
  update f i := ((f.update i.1 i.2).filter, (f.update i.1 i.2).returned)
  updateTimestamped f i t :=
    ((f.updateTimestamped i.1 i.2 t).filter, (f.updateTimestamped i.1 i.2 t).returned)
  advance f i dt :=
    (((f.predict i.2 dt).correct i.1).filter, ((f.predict i.2 dt).correct i.1).returned)
  idle f := f.healthy
  modelStep f t :=
    if f.dtSeconds * BoundedEkfFilter.kStaleMeasurementMultiplier < f.timestampedDt t then none
    else some (f.timestampedDt t)
  last f := f.lastTimestampNs
  record f t := { f with lastTimestampNs := t }
  nominal f := f.dtSeconds
  staleMultiplier := some BoundedEkfFilter.kStaleMeasurementMultiplier
  last_record _ _ := rfl
  record_record _ _ _ := rfl
  nominal_record _ _ := rfl
  nominal_advance f i dt :=
    congrArg controlPeriodSeconds ((f.predict i.2 dt).correct_config i.1)
  advance_record f i dt t := by
    have hrecord := (f.predict i.2 dt).correct_record i.1 t
    exact congrArg (fun updated => (updated.filter, updated.returned)) hrecord
  update_eq _ _ := rfl
  updateTimestamped_eq f i t := by
    rw [BoundedEkfFilter.updateTimestamped_exact]
    split <;> rfl
  modelStep_eq f t := by
    rw [stepBetween, Option.any_some, BoundedEkfFilter.timestampedDt_eq]
    simp only [decide_eq_true_eq]
  nominal_pos f := by
    rw [BoundedEkfFilter.dtSeconds_eq]
    exact controlPeriodSeconds_pos f.config
  one_le_staleMultiplier := by
    rintro multiplier ⟨⟩
    norm_num [BoundedEkfFilter.kStaleMeasurementMultiplier]

end Filters

end SafetyCore
