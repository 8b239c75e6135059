import Mathlib.Algebra.Order.Ring.Basic
import Mathlib.Data.List.Chain
import Mathlib.Tactic.Linarith
import Mathlib.Tactic.Ring

/-!
# Throttled events

A throttle admits the first of a list of times, and from then on a time that is at least one
period after the last one it has admitted. If the times never decrease and consecutive ones are at
most `gap` apart, then so are the admitted ones at most `period + gap`, so the number of admitted
times follows the time that has passed from both sides.
-/

namespace Throttle

variable {K : Type*} [CommRing K] [LinearOrder K]

/-- The times that are admitted after `last` was. -/
def admittedAfter (period : K) (last : K) : List K → List K
  | [] => []
  | t :: ts =>
      if t - last < period then admittedAfter period last ts
      else t :: admittedAfter period t ts

def admitted (period : K) : List K → List K
  | [] => []
  | t :: ts => t :: admittedAfter period t ts

theorem admittedAfter_of_lt {period last t : K} (h : t - last < period) (ts : List K) :
    admittedAfter period last (t :: ts) = admittedAfter period last ts := if_pos h

theorem admittedAfter_of_le {period last t : K} (h : period ≤ t - last) (ts : List K) :
    admittedAfter period last (t :: ts) = t :: admittedAfter period t ts := if_neg (not_lt.2 h)

/-- Two consecutive times that are admitted are at least one period apart, in whatever order the
times come. -/
theorem isChain_admittedAfter (period last : K) (ts : List K) :
    (last :: admittedAfter period last ts).IsChain fun s t => period ≤ t - s := by
  induction ts generalizing last with
  | nil => exact .singleton last
  | cons t ts ih =>
      by_cases h : t - last < period
      · rw [admittedAfter_of_lt h]
        exact ih last
      · rw [admittedAfter_of_le (not_lt.1 h)]
        exact .cons_cons (not_lt.1 h) (ih t)

theorem isChain_admitted (period : K) (ts : List K) :
    (admitted period ts).IsChain fun s t => period ≤ t - s := by
  cases ts with
  | nil => exact .nil
  | cons t ts => exact isChain_admittedAfter period t ts

theorem admittedAfter_sublist (period last : K) (ts : List K) :
    (admittedAfter period last ts).Sublist ts := by
  induction ts generalizing last with
  | nil => exact .slnil
  | cons t ts ih =>
      by_cases h : t - last < period
      · rw [admittedAfter_of_lt h]
        exact (ih last).cons t
      · rw [admittedAfter_of_le (not_lt.1 h)]
        exact (ih t).cons_cons t

theorem admitted_sublist (period : K) (ts : List K) : (admitted period ts).Sublist ts := by
  cases ts with
  | nil => exact .slnil
  | cons t ts => exact (admittedAfter_sublist period t ts).cons_cons t

/-- Times that never decrease, with consecutive ones at most `gap` apart. -/
def Dense (gap : K) (ts : List K) : Prop := ts.IsChain fun s t => s ≤ t ∧ t - s ≤ gap

variable [IsStrictOrderedRing K] {period gap : K}

/-- The invariant of the throttle: the last admitted time is less than one period ago. -/
theorem length_admittedAfter_bounds (hperiod : 0 < period) {last t : K} (hle : last ≤ t)
    (hlt : t - last < period) {ts : List K} (hts : Dense gap (t :: ts)) :
    (admittedAfter period last ts).length * period ≤ (ts.getLastD t) - last ∧
      (ts.getLastD t) - last <
        (admittedAfter period last ts).length * (period + gap) + period := by
  induction ts generalizing last t with
  | nil => simpa [admittedAfter] using ⟨hle, hlt⟩
  | cons t' ts ih =>
      obtain ⟨⟨hmono, hgap⟩, hrest⟩ := List.isChain_cons_cons.1 hts
      rw [List.getLastD_cons]
      by_cases h : t' - last < period
      · rw [admittedAfter_of_lt h]
        exact ih (hle.trans hmono) h hrest
      · rw [not_lt] at h
        obtain ⟨hlower, hupper⟩ := ih le_rfl (by rwa [sub_self]) hrest
        rw [admittedAfter_of_le h, List.length_cons]
        push_cast
        constructor
        · linarith
        · linarith

/-- The number of admitted times, up to the last one offered. -/
theorem length_admitted_bounds (hperiod : 0 < period) {t : K} {ts : List K}
    (hts : Dense gap (t :: ts)) :
    ((admitted period (t :: ts)).length - 1) * period ≤ ts.getLastD t - t ∧
      ts.getLastD t - t <
        ((admitted period (t :: ts)).length - 1) * (period + gap) + period := by
  have h := length_admittedAfter_bounds hperiod le_rfl (by rwa [sub_self]) hts
  rw [admitted, List.length_cons]
  push_cast
  rwa [add_sub_cancel_right]

end Throttle
