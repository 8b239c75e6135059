import Mathlib.Data.Rat.Floor
import Mathlib.Tactic.FieldSimp
import Mathlib.Tactic.GCongr
import Mathlib.Tactic.Linarith
import Mathlib.Tactic.NormNum
import Mathlib.Tactic.Positivity
import SafetyCore.Collections.Dwell
import SafetyCore.Ros.SensorMonitor

/-!
# The metrics of a sensor

The loop of `buildMetricsMsg` adds up the time that the history dwells at each status, so in
exact arithmetic the percentages are the shares of the window, and a sample that repeats its
predecessor changes none of them. The changes of the status are counted modulo `2 ^ 32`.
-/

namespace SafetyCore

open Arithmetic Dwell SensorHealth

/-- A sample as an entry of a history. -/
def StatusSample.timed {α : Type*} (sample : StatusSample α) : ℕ × UInt8 :=
  (sample.timestampNs.toNat, sample.status)

namespace SensorTracker

/-- The timestamps never decrease, and none lies after now. -/
def Timely {α : Type*} (history : List (StatusSample α)) (nowNs : UInt64) : Prop :=
  (history.map StatusSample.timestampNs ++ [nowNs]).IsChain (· ≤ ·)

/-- The statuses that the message has a percentage for. -/
def isReported (status : UInt8) : Bool :=
  status = SensorHealth.healthy || status = SensorHealth.degraded ||
    status = SensorHealth.fault

theorem isReported_iff {status : UInt8} :
    isReported status = true ↔ status = SensorHealth.healthy ∨
      status = SensorHealth.degraded ∨ status = SensorHealth.fault := by
  simp [isReported, or_assoc]

variable {K : Type*} [Field K] [LinearOrder K] [FloorSemiring K]

/-- The share of the window at the status `status`, in percent; a window without duration is
at the status of its first sample. -/
def statusPercentage (nowNs : UInt64) (history : List (StatusSample K)) (status : UInt8) : K :=
  let timed := history.map StatusSample.timed
  let windowNs := nowNs.toNat - nextTime nowNs.toNat timed
  if 0 < windowNs then
    (dwell (· = status) nowNs.toNat timed : K) / (windowNs : K) * 100.0
  else if history.head?.any (·.status = status) then 100.0 else 0.0

omit [Field K] [LinearOrder K] [FloorSemiring K] in
theorem Timely.timed {history : List (StatusSample K)} {nowNs : UInt64}
    (h : Timely history nowNs) :
    Dwell.Timely nowNs.toNat (history.map StatusSample.timed) := by
  unfold Dwell.Timely
  have hmap : (history.map StatusSample.timed).map Prod.fst ++ [nowNs.toNat] =
      (history.map StatusSample.timestampNs ++ [nowNs]).map UInt64.toNat := by
    simp [StatusSample.timed]
  rw [hmap, List.isChain_map]
  exact List.IsChain.imp (fun a b hle => UInt64.le_iff_toNat_le.1 hle) h

omit [Field K] [LinearOrder K] [FloorSemiring K] in
theorem Timely.front_le {front : StatusSample K} {rest : List (StatusSample K)}
    {nowNs : UInt64} (h : Timely (front :: rest) nowNs) : front.timestampNs ≤ nowNs := by
  have hle := dwell_le_elapsed (fun _ => true) h.timed
  rw [List.map_cons, StatusSample.timed, nextTime_cons] at hle
  exact UInt64.le_iff_toNat_le.2 (by omega)

/-! ## The loop -/

omit [Field K] [LinearOrder K] [FloorSemiring K] in
theorem durationNs_toNat {sample : StatusSample K} {rest : List (StatusSample K)}
    {nowNs : UInt64} (h : Dwell.Timely nowNs.toNat ((sample :: rest).map StatusSample.timed)) :
    (durationNs nowNs sample rest).toNat =
      nextTime nowNs.toNat (rest.map StatusSample.timed) - sample.timestampNs.toNat := by
  have hle := (timely_cons.1 h).1
  cases rest with
  | nil => exact UInt64.toNat_sub_of_le _ _ (UInt64.le_iff_toNat_le.2 hle)
  | cons next rest => exact UInt64.toNat_sub_of_le _ _ (UInt64.le_iff_toNat_le.2 hle)

/-- The time that the loop has added for a status. -/
def StatusTimes.timeOf (times : StatusTimes K) (status : UInt8) : K :=
  if status = SensorHealth.healthy then times.healthyTimeS
  else if status = SensorHealth.degraded then times.degradedTimeS
  else times.faultTimeS

omit [LinearOrder K] [FloorSemiring K] in
/-- A duration counts for the status of its sample. -/
theorem StatusTimes.timeOf_addDuration (times : StatusTimes K) (sampleStatus : UInt8)
    (durationS : K) {status : UInt8}
    (hstatus : isReported status = true) :
    (times.addDuration sampleStatus durationS).timeOf status =
      times.timeOf status + if sampleStatus = status then durationS else 0 := by
  unfold addDuration
  by_cases hhealthy : sampleStatus = SensorHealth.healthy
  · rcases isReported_iff.1 hstatus with rfl | rfl | rfl <;>
      simp [hhealthy, timeOf, healthy_ne_degraded, healthy_ne_fault, healthy_ne_degraded.symm,
        healthy_ne_fault.symm, degraded_ne_fault.symm]
  by_cases hdegraded : sampleStatus = SensorHealth.degraded
  · rcases isReported_iff.1 hstatus with rfl | rfl | rfl <;>
      simp [hdegraded, timeOf, healthy_ne_degraded.symm, healthy_ne_fault.symm,
        degraded_ne_fault, degraded_ne_fault.symm]
  by_cases hfault : sampleStatus = SensorHealth.fault
  · rcases isReported_iff.1 hstatus with rfl | rfl | rfl <;>
      simp [hfault, timeOf, healthy_ne_degraded.symm, healthy_ne_fault.symm,
        degraded_ne_fault.symm]
  · rcases isReported_iff.1 hstatus with rfl | rfl | rfl <;> simp [hhealthy, hdegraded, hfault]

omit [Field K] [LinearOrder K] [FloorSemiring K] in
theorem StatusTimes.timeOf_addTransition (times : StatusTimes K) (previous : Option UInt8)
    (sampleStatus status : UInt8) :
    (times.addTransition previous sampleStatus).timeOf status = times.timeOf status := by
  unfold addTransition
  split <;> rfl

omit [LinearOrder K] [FloorSemiring K] in
theorem statusTimes_timeOf {nowNs : UInt64} {history : List (StatusSample K)}
    (h : Dwell.Timely nowNs.toNat (history.map StatusSample.timed)) {status : UInt8}
    (hstatus : isReported status = true) (previous : Option UInt8) (times : StatusTimes K) :
    (statusTimes nowNs previous history times).timeOf status =
      times.timeOf status +
        (dwell (· = status) nowNs.toNat (history.map StatusSample.timed) : K) * 1e-9 := by
  induction history generalizing previous times with
  | nil => simp [statusTimes, dwell]
  | cons sample rest ih =>
      have hduration := durationNs_toNat h
      rw [statusTimes, ih (timely_cons.1 h).2, StatusTimes.timeOf_addTransition,
        StatusTimes.timeOf_addDuration times _ _ hstatus, List.map_cons, StatusSample.timed,
        dwell_cons, TimeUtils.nanosecondsToSeconds, hduration]
      by_cases hsample : sample.status = status
      · simp only [hsample, decide_true, if_true]
        push_cast
        ring
      · simp [hsample]

omit [LinearOrder K] [FloorSemiring K] in
theorem StatusTimes.transitions_add (times : StatusTimes K) (previous : Option UInt8)
    (sampleStatus : UInt8) (durationS : K) :
    ((times.addDuration sampleStatus durationS).addTransition previous sampleStatus).transitions =
      times.transitions + if previous.any (· ≠ sampleStatus) then 1 else 0 := by
  have hduration : (times.addDuration sampleStatus durationS).transitions =
      times.transitions := by
    unfold addDuration
    split
    · rfl
    · split
      · rfl
      · split <;> rfl
  unfold addTransition
  split
  · rw [hduration]
  · rw [hduration, UInt32.add_zero]

omit [LinearOrder K] [FloorSemiring K] in
theorem statusTimes_transitions (nowNs : UInt64) (history : List (StatusSample K))
    (previous : Option UInt8) (times : StatusTimes K) :
    (statusTimes nowNs previous history times).transitions =
      times.transitions + UInt32.ofNat
        (changes (previous.toList ++ history.map StatusSample.status)) := by
  induction history generalizing previous times with
  | nil => cases previous <;> simp [statusTimes]
  | cons sample rest ih =>
      rw [statusTimes, ih, StatusTimes.transitions_add]
      cases previous with
      | none => simp
      | some previous =>
          simp only [Option.toList_some, List.singleton_append, List.map_cons,
            changes_cons_cons previous, UInt32.ofNat_add]
          by_cases hsame : previous = sample.status
          · simp [hsame]
          · simp [hsame, UInt32.add_assoc, UInt32.add_comm]

/-! ## The message -/

/-- The percentage that the message reports for a status. -/
def percentageOf (msg : SensorHealthMetrics K) (status : UInt8) : K :=
  if status = SensorHealth.healthy then msg.healthyPercentage
  else if status = SensorHealth.degraded then msg.degradedPercentage
  else msg.faultPercentage

variable [IsStrictOrderedRing K]

theorem percentage_ns (dwellNs windowNs : ℕ) (otherwise : K) :
    (if 0 < (windowNs : K) * 1e-9 then
        (dwellNs : K) * 1e-9 / ((windowNs : K) * 1e-9) * 100.0
      else otherwise) =
      if 0 < windowNs then (dwellNs : K) / (windowNs : K) * 100.0 else otherwise := by
  have hnano : (0 : K) < 1e-9 := by norm_num
  by_cases hwindow : 0 < windowNs
  · have hcast : (0 : K) < windowNs := Nat.cast_pos.2 hwindow
    rw [if_pos hwindow, if_pos (mul_pos hcast hnano), mul_div_mul_right _ _ hnano.ne']
  · obtain rfl : windowNs = 0 := Nat.eq_zero_of_not_pos hwindow
    simp

theorem percentageOf_buildMetricsMsg (params : SensorMonitorParams K)
    {tracker : SensorTracker K} {nowNs : UInt64} (hne : tracker.statusHistory ≠ [])
    (h : Timely tracker.statusHistory nowNs) {status : UInt8}
    (hstatus : isReported status = true) :
    percentageOf (tracker.buildMetricsMsg params nowNs) status =
      statusPercentage nowNs tracker.statusHistory status := by
  have htimes := statusTimes_timeOf h.timed hstatus none ⟨0, 0, 0, 0⟩
  have hzero : (⟨0, 0, 0, 0⟩ : StatusTimes K).timeOf status = 0 := by
    simp [StatusTimes.timeOf]
  rw [hzero, zero_add] at htimes
  cases hhistory : tracker.statusHistory with
  | nil => exact absurd hhistory hne
  | cons front rest =>
      rw [hhistory] at h htimes
      have hmsg : percentageOf (tracker.buildMetricsMsg params nowNs) status =
          if (0 : K) < TimeUtils.nanosecondsToSeconds (nowNs - front.timestampNs) then
            (statusTimes nowNs none (front :: rest) ⟨0, 0, 0, 0⟩).timeOf status /
              TimeUtils.nanosecondsToSeconds (nowNs - front.timestampNs) * 100.0
          else if front.status = status then 100.0 else 0.0 := by
        unfold buildMetricsMsg
        rw [hhistory]
        rcases isReported_iff.1 hstatus with rfl | rfl | rfl <;> rfl
      have hwindow : (nowNs - front.timestampNs).toNat =
          nowNs.toNat - front.timestampNs.toNat := UInt64.toNat_sub_of_le _ _ h.front_le
      rw [hmsg, htimes, TimeUtils.nanosecondsToSeconds, hwindow, percentage_ns,
        statusPercentage]
      simp [StatusSample.timed]

omit [IsStrictOrderedRing K] in
theorem transitionCount_buildMetricsMsg (params : SensorMonitorParams K)
    {tracker : SensorTracker K} (nowNs : UInt64) (hne : tracker.statusHistory ≠ []) :
    (tracker.buildMetricsMsg params nowNs).transitionCount =
      UInt32.ofNat (changes (tracker.statusHistory.map StatusSample.status)) := by
  unfold buildMetricsMsg
  cases hhistory : tracker.statusHistory with
  | nil => exact absurd hhistory hne
  | cons front rest =>
      have htransitions := statusTimes_transitions nowNs (front :: rest) none
        (⟨0, 0, 0, 0⟩ : StatusTimes K)
      simpa using htransitions

/-! ## The shares of the window -/

omit [FloorSemiring K] in
theorem statusPercentage_nonneg (nowNs : UInt64) (history : List (StatusSample K))
    (status : UInt8) : 0 ≤ statusPercentage nowNs history status := by
  unfold statusPercentage
  dsimp only
  split
  · positivity
  · split <;> norm_num

theorem dwell_isReported (stop : ℕ) (timed : List (ℕ × UInt8)) :
    dwell isReported stop timed =
      dwell (· = SensorHealth.healthy) stop timed +
        dwell (· = SensorHealth.degraded) stop timed +
        dwell (· = SensorHealth.fault) stop timed := by
  rw [← dwell_or _ _ stop timed, ← dwell_or _ _ stop timed]
  · rfl
  · intro status
    simp only [Bool.or_eq_true, decide_eq_true_eq]
    rintro ⟨rfl | rfl, hfault⟩
    · exact healthy_ne_fault hfault
    · exact degraded_ne_fault hfault
  · intro status
    simp only [decide_eq_true_eq]
    rintro ⟨rfl, hdegraded⟩
    exact healthy_ne_degraded hdegraded

/-- The percentages of the three statuses together. -/
def percentageSum (nowNs : UInt64) (history : List (StatusSample K)) : K :=
  statusPercentage nowNs history SensorHealth.healthy +
    statusPercentage nowNs history SensorHealth.degraded +
    statusPercentage nowNs history SensorHealth.fault

omit [LinearOrder K] [IsStrictOrderedRing K] [FloorSemiring K] in
theorem percentageSum_of_pos {nowNs : UInt64} {history : List (StatusSample K)}
    (h : 0 < nowNs.toNat - nextTime nowNs.toNat (history.map StatusSample.timed)) :
    percentageSum nowNs history =
      (dwell isReported nowNs.toNat (history.map StatusSample.timed) : K) /
        ((nowNs.toNat - nextTime nowNs.toNat (history.map StatusSample.timed) : ℕ) : K) *
          100.0 := by
  unfold percentageSum statusPercentage
  simp only [if_pos h]
  rw [dwell_isReported, Nat.cast_add, Nat.cast_add, add_div, add_div, add_mul, add_mul]

omit [FloorSemiring K] in
theorem percentageSum_of_zero {nowNs : UInt64} {front : StatusSample K}
    {rest : List (StatusSample K)}
    (h : ¬ 0 < nowNs.toNat -
      nextTime nowNs.toNat ((front :: rest).map StatusSample.timed)) :
    percentageSum nowNs (front :: rest) = if isReported front.status then 100 else 0 := by
  unfold percentageSum statusPercentage isReported
  simp only [if_neg h, List.head?_cons, Option.any_some, decide_eq_true_eq, Bool.or_eq_true]
  by_cases hhealthy : front.status = SensorHealth.healthy
  · norm_num [hhealthy, healthy_ne_degraded, healthy_ne_fault]
  by_cases hdegraded : front.status = SensorHealth.degraded
  · norm_num [hdegraded, healthy_ne_degraded.symm, degraded_ne_fault]
  by_cases hfault : front.status = SensorHealth.fault
  · norm_num [hfault, healthy_ne_fault.symm, degraded_ne_fault.symm]
  · norm_num [hhealthy, hdegraded, hfault]

omit [FloorSemiring K] in
theorem percentageSum_le {nowNs : UInt64} {history : List (StatusSample K)}
    (hne : history ≠ []) (h : Timely history nowNs) : percentageSum nowNs history ≤ 100 := by
  by_cases hpos : 0 < nowNs.toNat - nextTime nowNs.toNat (history.map StatusSample.timed)
  · have hle := dwell_le_elapsed isReported h.timed
    have hshare : (dwell isReported nowNs.toNat (history.map StatusSample.timed) : K) /
        ((nowNs.toNat - nextTime nowNs.toNat (history.map StatusSample.timed) : ℕ) : K) ≤ 1 := by
      rw [div_le_one (Nat.cast_pos.2 hpos), Nat.cast_le]
      omega
    rw [percentageSum_of_pos hpos]
    calc _ ≤ (1 : K) * 100.0 := by gcongr
      _ = 100 := by norm_num
  · obtain ⟨front, rest, rfl⟩ := List.exists_cons_of_ne_nil hne
    rw [percentageSum_of_zero hpos]
    split <;> norm_num

omit [FloorSemiring K] in
theorem percentageSum_eq {nowNs : UInt64} {history : List (StatusSample K)}
    (hne : history ≠ []) (h : Timely history nowNs)
    (hreported : ∀ sample ∈ history, isReported sample.status = true) :
    percentageSum nowNs history = 100 := by
  by_cases hpos : 0 < nowNs.toNat - nextTime nowNs.toNat (history.map StatusSample.timed)
  · have hall : ∀ entry ∈ history.map StatusSample.timed, isReported entry.2 = true := by
      intro entry hentry
      obtain ⟨sample, hsample, rfl⟩ := List.mem_map.1 hentry
      exact hreported sample hsample
    have helapsed := dwell_eq_elapsed h.timed hall
    have hdwell : dwell isReported nowNs.toNat (history.map StatusSample.timed) =
        nowNs.toNat - nextTime nowNs.toNat (history.map StatusSample.timed) := by omega
    have hcast : ((nowNs.toNat - nextTime nowNs.toNat (history.map StatusSample.timed) : ℕ) :
        K) ≠ 0 := (Nat.cast_pos.2 hpos).ne'
    rw [percentageSum_of_pos hpos, hdwell, div_self hcast]
    norm_num
  · obtain ⟨front, rest, rfl⟩ := List.exists_cons_of_ne_nil hne
    rw [percentageSum_of_zero hpos, if_pos (hreported front List.mem_cons_self)]

/-! ## A sample that repeats its predecessor -/

section Repeated

variable {pre post : List (StatusSample K)} {sample : StatusSample K} {nowNs repeatedNs : UInt64}

omit [Field K] [LinearOrder K] [FloorSemiring K] [IsStrictOrderedRing K] in
theorem Timely.insert (h : Timely (pre ++ sample :: post) nowNs)
    (hle : sample.timestampNs ≤ repeatedNs)
    (hnext : ∀ next ∈ (post.map StatusSample.timestampNs ++ [nowNs]).head?, repeatedNs ≤ next)
    (rate : K) : Timely (pre ++ sample :: ⟨repeatedNs, sample.status, rate⟩ :: post) nowNs := by
  unfold Timely at h ⊢
  rw [List.map_append, List.append_assoc, List.map_cons, List.cons_append,
    List.isChain_split] at h
  rw [List.map_append, List.append_assoc, List.map_cons, List.map_cons, List.cons_append,
    List.cons_append, List.isChain_split, List.isChain_cons_cons]
  exact ⟨h.1, hle, List.isChain_cons.2 ⟨hnext, (List.isChain_cons.1 h.2).2⟩⟩

omit [LinearOrder K] [FloorSemiring K] [IsStrictOrderedRing K] in
theorem statusPercentage_insert
    (hle : sample.timestampNs ≤ repeatedNs)
    (hnext : ∀ next ∈ (post.map StatusSample.timestampNs ++ [nowNs]).head?, repeatedNs ≤ next)
    (rate : K) (status : UInt8) :
    statusPercentage nowNs (pre ++ sample :: ⟨repeatedNs, sample.status, rate⟩ :: post) status =
      statusPercentage nowNs (pre ++ sample :: post) status := by
  have hnextTime : repeatedNs.toNat ≤
      nextTime nowNs.toNat (post.map StatusSample.timed) := by
    cases post with
    | nil => exact UInt64.le_iff_toNat_le.1 (hnext nowNs rfl)
    | cons next post => exact UInt64.le_iff_toNat_le.1 (hnext next.timestampNs rfl)
  have hdwell := dwell_insert (· = status) nowNs.toNat (pre.map StatusSample.timed)
    (post.map StatusSample.timed) sample.status (UInt64.le_iff_toNat_le.1 hle) hnextTime
  have hfirst : nextTime nowNs.toNat
      ((pre ++ sample :: ⟨repeatedNs, sample.status, rate⟩ :: post).map StatusSample.timed) =
        nextTime nowNs.toNat ((pre ++ sample :: post).map StatusSample.timed) := by
    cases pre <;> rfl
  have hhead : (pre ++ sample :: ⟨repeatedNs, sample.status, rate⟩ :: post).head? =
      (pre ++ sample :: post).head? := by
    cases pre <;> rfl
  have hmap : ∀ rest : List (StatusSample K), (pre ++ sample :: rest).map StatusSample.timed =
      pre.map StatusSample.timed ++
        (sample.timestampNs.toNat, sample.status) :: rest.map StatusSample.timed := by
    intro rest
    rw [List.map_append, List.map_cons]
    rfl
  unfold statusPercentage
  simp only [hfirst, hhead]
  rw [hmap, hmap, List.map_cons, StatusSample.timed, hdwell]

end Repeated

/-! ## The law of the metrics -/

/-- Two messages with the same percentages and transitions. -/
structure SameShares (msg msg' : SensorHealthMetrics K) : Prop where
  healthy : msg'.healthyPercentage = msg.healthyPercentage
  degraded : msg'.degradedPercentage = msg.degradedPercentage
  fault : msg'.faultPercentage = msg.faultPercentage
  transitions : msg'.transitionCount = msg.transitionCount

/-- What the message says about the history. -/
structure MetricsLaw (params : SensorMonitorParams K) (tracker : SensorTracker K)
    (nowNs : UInt64) (msg : SensorHealthMetrics K) : Prop where
  healthy_mem : 0 ≤ msg.healthyPercentage ∧ msg.healthyPercentage ≤ 100.0
  degraded_mem : 0 ≤ msg.degradedPercentage ∧ msg.degradedPercentage ≤ 100.0
  fault_mem : 0 ≤ msg.faultPercentage ∧ msg.faultPercentage ≤ 100.0
  sum_le : msg.healthyPercentage + msg.degradedPercentage + msg.faultPercentage ≤ 100.0
  sum_eq : (∀ sample ∈ tracker.statusHistory, isReported sample.status = true) →
    msg.healthyPercentage + msg.degradedPercentage + msg.faultPercentage = 100.0
  transitions : msg.transitionCount.toNat =
    changes (tracker.statusHistory.map StatusSample.status) % UInt32.size
  resampled : ∀ pre sample post repeatedNs rate,
    tracker.statusHistory = pre ++ sample :: post → sample.timestampNs ≤ repeatedNs →
    (∀ next ∈ (post.map StatusSample.timestampNs ++ [nowNs]).head?, repeatedNs ≤ next) →
    SameShares msg ({ tracker with
      statusHistory := pre ++ sample :: ⟨repeatedNs, sample.status, rate⟩ :: post
    }.buildMetricsMsg params nowNs)

section Message

variable {params : SensorMonitorParams K} {tracker : SensorTracker K} {nowNs : UInt64}

theorem sum_buildMetricsMsg (params : SensorMonitorParams K)
    (hne : tracker.statusHistory ≠ []) (h : Timely tracker.statusHistory nowNs) :
    (tracker.buildMetricsMsg params nowNs).healthyPercentage +
        (tracker.buildMetricsMsg params nowNs).degradedPercentage +
        (tracker.buildMetricsMsg params nowNs).faultPercentage =
      percentageSum nowNs tracker.statusHistory := by
  rw [percentageSum, ← percentageOf_buildMetricsMsg params hne h rfl,
    ← percentageOf_buildMetricsMsg params hne h rfl,
    ← percentageOf_buildMetricsMsg params hne h rfl]
  rfl

theorem nonneg_buildMetricsMsg (params : SensorMonitorParams K)
    (hne : tracker.statusHistory ≠ []) (h : Timely tracker.statusHistory nowNs) :
    0 ≤ (tracker.buildMetricsMsg params nowNs).healthyPercentage ∧
      0 ≤ (tracker.buildMetricsMsg params nowNs).degradedPercentage ∧
      0 ≤ (tracker.buildMetricsMsg params nowNs).faultPercentage := by
  have hnonneg : ∀ status, isReported status = true →
      0 ≤ percentageOf (tracker.buildMetricsMsg params nowNs) status := by
    intro status hstatus
    rw [percentageOf_buildMetricsMsg params hne h hstatus]
    exact statusPercentage_nonneg nowNs tracker.statusHistory status
  exact ⟨hnonneg healthy rfl, hnonneg degraded rfl, hnonneg fault rfl⟩

theorem sameShares_insert (params : SensorMonitorParams K)
    (h : Timely tracker.statusHistory nowNs) {pre post : List (StatusSample K)}
    {sample : StatusSample K} {repeatedNs : UInt64} (rate : K)
    (hhistory : tracker.statusHistory = pre ++ sample :: post)
    (hle : sample.timestampNs ≤ repeatedNs)
    (hnext : ∀ next ∈ (post.map StatusSample.timestampNs ++ [nowNs]).head?,
      repeatedNs ≤ next) :
    SameShares (tracker.buildMetricsMsg params nowNs) ({ tracker with
      statusHistory := pre ++ sample :: ⟨repeatedNs, sample.status, rate⟩ :: post
    }.buildMetricsMsg params nowNs) := by
  have hne : tracker.statusHistory ≠ [] := by
    rw [hhistory]
    exact List.append_ne_nil_of_right_ne_nil _ (List.cons_ne_nil _ _)
  let resampled : SensorTracker K := { tracker with
    statusHistory := pre ++ sample :: ⟨repeatedNs, sample.status, rate⟩ :: post }
  have hne' : resampled.statusHistory ≠ [] :=
    List.append_ne_nil_of_right_ne_nil _ (List.cons_ne_nil _ _)
  have htimely : Timely (pre ++ sample :: post) nowNs := hhistory ▸ h
  have hshares : ∀ status, isReported status = true →
      percentageOf (resampled.buildMetricsMsg params nowNs) status =
        percentageOf (tracker.buildMetricsMsg params nowNs) status := by
    intro status hstatus
    rw [percentageOf_buildMetricsMsg params hne h hstatus,
      percentageOf_buildMetricsMsg params hne' (htimely.insert hle hnext rate) hstatus,
      hhistory, statusPercentage_insert hle hnext rate]
  have hchanges : (resampled.buildMetricsMsg params nowNs).transitionCount =
      (tracker.buildMetricsMsg params nowNs).transitionCount := by
    rw [transitionCount_buildMetricsMsg params nowNs hne,
      transitionCount_buildMetricsMsg params nowNs hne', hhistory]
    simp only [resampled, List.map_append, List.map_cons, changes_insert]
  exact ⟨hshares healthy rfl, hshares degraded rfl, hshares fault rfl, hchanges⟩

end Message

theorem metricsLaw_buildMetricsMsg (params : SensorMonitorParams K)
    {tracker : SensorTracker K} {nowNs : UInt64} (hne : tracker.statusHistory ≠ [])
    (h : Timely tracker.statusHistory nowNs) :
    MetricsLaw params tracker nowNs (tracker.buildMetricsMsg params nowNs) := by
  have hsum := sum_buildMetricsMsg params hne h
  have hle := hsum.trans_le (percentageSum_le hne h)
  obtain ⟨hhealthy, hdegraded, hfault⟩ := nonneg_buildMetricsMsg params hne h
  have hhundred : (100.0 : K) = 100 := by norm_num
  exact
    { healthy_mem := ⟨hhealthy, by linarith⟩
      degraded_mem := ⟨hdegraded, by linarith⟩
      fault_mem := ⟨hfault, by linarith⟩
      sum_le := hle.trans_eq hhundred.symm
      sum_eq := fun hreported =>
        (hsum.trans (percentageSum_eq hne h hreported)).trans hhundred.symm
      transitions := by
        rw [transitionCount_buildMetricsMsg params nowNs hne, UInt32.toNat_ofNat']
      resampled := fun _ _ _ _ rate hhistory hsample hnext =>
        sameShares_insert params h rate hhistory hsample hnext }

/-! ## Concrete histories -/

/-- A history of three samples. -/
def threeSamples : SensorTracker ℚ where
  sensorName := "lidar"
  expectedRateHz := 10.0
  statusHistory := [⟨1000000000, SensorHealth.healthy, 10.0⟩,
    ⟨2000000000, SensorHealth.degraded, 6.0⟩, ⟨3000000000, SensorHealth.healthy, 10.0⟩]

theorem metricsLaw_threeSamples :
    MetricsLaw {} threeSamples 5000000000 (threeSamples.buildMetricsMsg {} 5000000000) :=
  metricsLaw_buildMetricsMsg {} (List.cons_ne_nil _ _)
    (.cons_cons (by decide) (.cons_cons (by decide) (.cons_cons (by decide) (.singleton _))))

/-- A history of `n` changes, all at the time zero. -/
def changingHistory (n : ℕ) : List (StatusSample ℚ) :=
  (alternating SensorHealth.healthy SensorHealth.degraded (n + 1)).map (⟨0, ·, 0⟩)

theorem changingHistory_ne_nil (n : ℕ) : changingHistory n ≠ [] :=
  List.cons_ne_nil _ _

theorem changes_changingHistory (n : ℕ) :
    changes ((changingHistory n).map StatusSample.status) = n := by
  have hstatus : (changingHistory n).map StatusSample.status =
      alternating SensorHealth.healthy SensorHealth.degraded (n + 1) := by
    rw [changingHistory, List.map_map]
    exact List.map_id _
  rw [hstatus, changes_alternating (by decide)]

theorem timely_changingHistory (n : ℕ) : Timely (changingHistory n) 0 := by
  refine (List.pairwise_of_forall_mem_list fun a ha b hb => ?_).isChain
  have hzero : ∀ t ∈ (changingHistory n).map StatusSample.timestampNs ++ [0], t = 0 := by
    intro t ht
    rw [List.mem_append, List.mem_singleton, changingHistory, List.map_map] at ht
    rcases ht with ht | rfl
    · obtain ⟨status, -, rfl⟩ := List.mem_map.1 ht
      rfl
    · rfl
  rw [hzero a ha, hzero b hb]
  exact UInt64.le_refl 0

def changingTracker (n : ℕ) : SensorTracker ℚ where
  sensorName := "lidar"
  expectedRateHz := 10.0
  statusHistory := changingHistory n

/-- As many changes as the count has values are counted as none. -/
theorem not_always_transitionCount :
    ¬ ∀ (params : SensorMonitorParams ℚ) (tracker : SensorTracker ℚ) (nowNs : UInt64),
      tracker.statusHistory ≠ [] → Timely tracker.statusHistory nowNs →
      (tracker.buildMetricsMsg params nowNs).transitionCount.toNat =
        changes (tracker.statusHistory.map StatusSample.status) := by
  intro h
  have hcount : ∀ n, (UInt32.ofNat n).toNat = n := by
    intro n
    have hn := h {} (changingTracker n) 0 (changingHistory_ne_nil n)
      (timely_changingHistory n)
    rw [transitionCount_buildMetricsMsg {} 0 (changingHistory_ne_nil n)] at hn
    have hchanges : changes ((changingTracker n).statusHistory.map StatusSample.status) = n :=
      changes_changingHistory n
    rwa [hchanges] at hn
  exact absurd (hcount UInt32.size) (by decide)

end SensorTracker

end SafetyCore
