import Mathlib.Data.List.Chain
import Mathlib.Tactic.Common

/-!
# Histories of timed values

A history is a list of values with the times from which they hold; the last value holds until
the time `stop`. `dwell p` is the time that the history spends at values with `p`, and
`changes` is the number of times at which the value changes. Recording a value again while it
holds changes neither.
-/

namespace Dwell

variable {β : Type*}

/-- The time at which a history begins, or `stop` if it is empty. -/
def nextTime (stop : ℕ) : List (ℕ × β) → ℕ
  | [] => stop
  | (t, _) :: _ => t

/-- The times never decrease, and none lies after `stop`. -/
def Timely (stop : ℕ) (history : List (ℕ × β)) : Prop :=
  (history.map Prod.fst ++ [stop]).IsChain (· ≤ ·)

/-- The time spent at values with `p`. -/
def dwell (p : β → Bool) (stop : ℕ) : List (ℕ × β) → ℕ
  | [] => 0
  | (t, v) :: rest => (if p v then nextTime stop rest - t else 0) + dwell p stop rest

@[simp] theorem nextTime_cons (stop t : ℕ) (v : β) (rest : List (ℕ × β)) :
    nextTime stop ((t, v) :: rest) = t := rfl

theorem dwell_cons (p : β → Bool) (stop t : ℕ) (v : β) (rest : List (ℕ × β)) :
    dwell p stop ((t, v) :: rest) =
      (if p v then nextTime stop rest - t else 0) + dwell p stop rest := rfl

theorem timely_cons {stop t : ℕ} {v : β} {rest : List (ℕ × β)} :
    Timely stop ((t, v) :: rest) ↔ t ≤ nextTime stop rest ∧ Timely stop rest := by
  unfold Timely
  cases rest with
  | nil => simp [nextTime]
  | cons entry rest => simp [nextTime]

/-! ## The whole time -/

/-- A history spends all its time at its values. -/
theorem dwell_eq_elapsed {p : β → Bool} {stop : ℕ} {history : List (ℕ × β)}
    (h : Timely stop history) (hp : ∀ entry ∈ history, p entry.2 = true) :
    nextTime stop history + dwell p stop history = stop := by
  induction history with
  | nil => rfl
  | cons entry rest ih =>
      obtain ⟨t, v⟩ := entry
      rw [List.forall_mem_cons] at hp
      obtain ⟨hle, hrest⟩ := timely_cons.1 h
      have htail := ih hrest hp.2
      rw [dwell_cons, if_pos hp.1, nextTime_cons]
      omega

/-- Two kinds of values share the time of either kind. -/
theorem dwell_or (p q : β → Bool) (stop : ℕ) (history : List (ℕ × β))
    (hpq : ∀ v, ¬ (p v = true ∧ q v = true)) :
    dwell (fun v => p v || q v) stop history = dwell p stop history + dwell q stop history := by
  induction history with
  | nil => rfl
  | cons entry rest ih =>
      obtain ⟨t, v⟩ := entry
      have hnot := hpq v
      rw [dwell_cons, dwell_cons, dwell_cons, ih]
      cases hp : p v with
      | true =>
          have hq : q v = false := by simpa [hp] using hnot
          simp only [hq, Bool.or_false, if_true, Bool.false_eq_true, if_false]
          omega
      | false =>
          simp only [Bool.false_or, Bool.false_eq_true, if_false]
          omega

theorem dwell_mono {p q : β → Bool} (hpq : ∀ v, p v = true → q v = true) (stop : ℕ)
    (history : List (ℕ × β)) : dwell p stop history ≤ dwell q stop history := by
  induction history with
  | nil => exact le_rfl
  | cons entry rest ih =>
      obtain ⟨t, v⟩ := entry
      rw [dwell_cons, dwell_cons]
      refine Nat.add_le_add ?_ ih
      split
      case isTrue hp => rw [if_pos (hpq v hp)]
      case isFalse => exact Nat.zero_le _

theorem dwell_le_elapsed (p : β → Bool) {stop : ℕ} {history : List (ℕ × β)}
    (h : Timely stop history) : nextTime stop history + dwell p stop history ≤ stop := by
  have hall := dwell_eq_elapsed (p := fun _ => true) h fun _ _ => rfl
  have hle := dwell_mono (p := p) (q := fun _ => true) (fun _ _ => rfl) stop history
  omega

/-! ## A value that is recorded again -/

theorem dwell_append (p : β → Bool) (stop : ℕ) (pre post : List (ℕ × β)) :
    dwell p stop (pre ++ post) = dwell p (nextTime stop post) pre + dwell p stop post := by
  induction pre with
  | nil => exact (Nat.zero_add _).symm
  | cons entry pre ih =>
      obtain ⟨t, v⟩ := entry
      have hnext : nextTime stop (pre ++ post) = nextTime (nextTime stop post) pre := by
        cases pre <;> rfl
      rw [List.cons_append, dwell_cons, dwell_cons, ih, hnext, Nat.add_assoc]

theorem dwell_insert (p : β → Bool) (stop : ℕ) (pre post : List (ℕ × β)) {t t' : ℕ} (v : β)
    (hle : t ≤ t') (hnext : t' ≤ nextTime stop post) :
    dwell p stop (pre ++ (t, v) :: (t', v) :: post) =
      dwell p stop (pre ++ (t, v) :: post) := by
  rw [dwell_append, dwell_append]
  rw [nextTime_cons, nextTime_cons, dwell_cons, dwell_cons, dwell_cons, nextTime_cons]
  split <;> omega

/-! ## Changes -/

section Changes

variable [DecidableEq β]

/-- The number of neighbours that differ. -/
def changes (values : List β) : ℕ :=
  (values.zip values.tail).countP fun pair => pair.1 ≠ pair.2

@[simp] theorem changes_nil : changes ([] : List β) = 0 := rfl

@[simp] theorem changes_singleton (a : β) : changes [a] = 0 := rfl

theorem changes_cons_cons (a b : β) (rest : List β) :
    changes (a :: b :: rest) = changes (b :: rest) + if a ≠ b then 1 else 0 := by
  simp [changes, List.countP_cons]

theorem changes_insert (pre : List β) (v : β) (post : List β) :
    changes (pre ++ v :: v :: post) = changes (pre ++ v :: post) := by
  induction pre with
  | nil => simp [changes_cons_cons]
  | cons a pre ih =>
      cases pre with
      | nil =>
          rw [List.nil_append, List.nil_append] at ih
          simp only [List.cons_append, List.nil_append, changes_cons_cons a, ih]
      | cons b pre =>
          simp only [List.cons_append] at ih ⊢
          rw [changes_cons_cons, changes_cons_cons, ih]

/-- Two values by turns. -/
def alternating (a b : β) : ℕ → List β
  | 0 => []
  | n + 1 => a :: alternating b a n

theorem changes_alternating {a b : β} (hab : a ≠ b) (n : ℕ) :
    changes (alternating a b (n + 1)) = n := by
  induction n generalizing a b with
  | zero => rfl
  | succ n ih =>
      have htail := ih hab.symm
      rw [alternating] at htail
      rw [alternating, alternating, changes_cons_cons, htail, if_pos hab]

end Changes

end Dwell
