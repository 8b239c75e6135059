import Mathlib.Data.List.Chain
import Mathlib.Logic.Function.Iterate
import Mathlib.Tactic.Common

/-!
# Loops that fill a buffer

A loop passes from state to state as long as `goesOn` says so, and writes one value for
every state it passes and one for the state in which it ends. `fill` is the loop with a
buffer of a given capacity. It succeeds if everything fits, and stops when the buffer is
full otherwise.

What the loop would write without a bound is its `trace`. `fill_eq` says that a buffer
holds the whole trace or as much of it as fits, so that everything about the contents of a
buffer follows from the iterates of `next`.
-/

namespace Transition

/-- A loop over states `σ` that writes values `β`. -/
structure BufferedLoop (σ β : Type*) where
  goesOn : σ → Bool
  next : σ → σ
  emit : σ → β
  final : σ → β

namespace BufferedLoop

variable {σ β : Type*} (L : BufferedLoop σ β)

/-- Whether everything fits into the buffer, and what was written. -/
def fill : ℕ → σ → Bool × List β
  | 0, _ => (false, [])
  | capacity + 1, s =>
      if L.goesOn s then
        let rest := fill capacity (L.next s)
        (rest.1, L.emit s :: rest.2)
      else
        (true, [L.final s])

/-- The loop passes `n` states and ends in the next one. -/
def EndsAfter : ℕ → σ → Prop
  | 0, s => L.goesOn s = false
  | n + 1, s => L.goesOn s = true ∧ EndsAfter n (L.next s)

/-- What the loop writes if it ends after `n` states. -/
def trace : ℕ → σ → List β
  | 0, s => [L.final s]
  | n + 1, s => L.emit s :: trace n (L.next s)

variable {L}

theorem endsAfter_iff {n : ℕ} {s : σ} :
    L.EndsAfter n s ↔
      (∀ i < n, L.goesOn (L.next^[i] s) = true) ∧ L.goesOn (L.next^[n] s) = false := by
  induction n generalizing s with
  | zero => simp [EndsAfter]
  | succ n ih =>
      rw [EndsAfter, ih, ← and_assoc]
      refine and_congr_left fun _ => ?_
      constructor
      · rintro ⟨hs, hrest⟩ i hi
        cases i with
        | zero => exact hs
        | succ i => exact hrest i (Nat.lt_of_succ_lt_succ hi)
      · intro h
        exact ⟨h 0 n.succ_pos, fun i hi => h (i + 1) (Nat.succ_lt_succ hi)⟩

/-- A loop that goes on has one round less to go after it. -/
theorem EndsAfter.next_of_goesOn {n : ℕ} {s : σ} (h : L.EndsAfter n s)
    (hgo : L.goesOn s = true) : ∃ m < n, L.EndsAfter m (L.next s) := by
  cases n with
  | zero => exact absurd hgo (Bool.eq_false_iff.1 h)
  | succ n => exact ⟨n, n.lt_succ_self, h.2⟩

theorem EndsAfter.unique {n m : ℕ} {s : σ} (hn : L.EndsAfter n s) (hm : L.EndsAfter m s) :
    n = m := by
  induction n generalizing m s with
  | zero =>
      cases m with
      | zero => rfl
      | succ m => exact absurd hm.1 (Bool.eq_false_iff.1 hn)
  | succ n ih =>
      cases m with
      | zero => exact absurd hn.1 (Bool.eq_false_iff.1 hm)
      | succ m => rw [ih hn.2 hm.2]

/-! ## The trace -/

@[simp] theorem length_trace (n : ℕ) (s : σ) : (L.trace n s).length = n + 1 := by
  induction n generalizing s with
  | zero => rfl
  | succ n ih => rw [trace, List.length_cons, ih]

theorem trace_ne_nil (n : ℕ) (s : σ) : L.trace n s ≠ [] :=
  List.ne_nil_of_length_eq_add_one (length_trace n s)

theorem getElem?_trace_of_lt {n i : ℕ} (s : σ) (hi : i < n) :
    (L.trace n s)[i]? = some (L.emit (L.next^[i] s)) := by
  induction n generalizing i s with
  | zero => exact absurd hi i.not_lt_zero
  | succ n ih =>
      cases i with
      | zero => rfl
      | succ i => exact ih (L.next s) (Nat.lt_of_succ_lt_succ hi)

theorem getElem?_trace_self (n : ℕ) (s : σ) :
    (L.trace n s)[n]? = some (L.final (L.next^[n] s)) := by
  induction n generalizing s with
  | zero => rfl
  | succ n ih => exact ih (L.next s)

theorem trace_eq_map_range (n : ℕ) (s : σ) :
    L.trace n s =
      (List.range n).map (fun i => L.emit (L.next^[i] s)) ++ [L.final (L.next^[n] s)] := by
  induction n generalizing s with
  | zero => rfl
  | succ n ih =>
      rw [trace, ih, List.range_succ_eq_map, List.map_cons, List.map_map]
      rfl

theorem getLast?_trace (n : ℕ) (s : σ) :
    (L.trace n s).getLast? = some (L.final (L.next^[n] s)) := by
  rw [List.getLast?_eq_getElem?, length_trace, Nat.add_sub_cancel, getElem?_trace_self]

/-! ## The buffer -/

/-- A buffer holds the whole trace, or is full. -/
theorem fill_eq {n : ℕ} {s : σ} (h : L.EndsAfter n s) (capacity : ℕ) :
    L.fill capacity s =
      if n < capacity then (true, L.trace n s) else (false, (L.trace n s).take capacity) := by
  induction capacity generalizing n s with
  | zero => rfl
  | succ capacity ih =>
      cases n with
      | zero =>
          rw [fill, show L.goesOn s = false from h]
          rfl
      | succ n =>
          rw [fill, if_pos h.1, ih h.2]
          by_cases hlt : n < capacity
          · rw [if_pos hlt, if_pos (Nat.succ_lt_succ hlt)]
            rfl
          · rw [if_neg hlt, if_neg (fun hc => hlt (Nat.lt_of_succ_lt_succ hc))]
            rfl

/-- A loop that has filled its buffer without an overrun has ended. -/
theorem exists_endsAfter_of_fill {capacity : ℕ} {s : σ} (h : (L.fill capacity s).1 = true) :
    ∃ n < capacity, L.EndsAfter n s ∧ L.fill capacity s = (true, L.trace n s) := by
  have hends : ∃ n, L.EndsAfter n s := by
    induction capacity generalizing s with
    | zero => cases h
    | succ capacity ih =>
        by_cases hs : L.goesOn s = true
        · rw [fill, if_pos hs] at h
          obtain ⟨n, hn⟩ := ih h
          exact ⟨n + 1, hs, hn⟩
        · exact ⟨0, Bool.eq_false_iff.2 hs⟩
  obtain ⟨n, hn⟩ := hends
  rw [fill_eq hn] at h ⊢
  by_cases hlt : n < capacity
  · rw [if_pos hlt]
    exact ⟨n, hlt, hn, rfl⟩
  · rw [if_neg hlt] at h
    cases h

/-! ## Invariants -/

/-- What holds at the start and survives every round holds in every state of the loop. -/
theorem EndsAfter.invariant {I : σ → Prop}
    (hI : ∀ s, I s → L.goesOn s = true → I (L.next s)) {n i : ℕ} {s : σ}
    (h : L.EndsAfter n s) (hs : I s) (hi : i ≤ n) : I (L.next^[i] s) := by
  induction i generalizing n s with
  | zero => exact hs
  | succ i ih =>
      cases n with
      | zero => exact absurd hi (Nat.not_succ_le_zero i)
      | succ n => exact ih h.2 (hI s hs h.1) (Nat.le_of_succ_le_succ hi)

/-- Every value of the trace has what the invariant gives it. -/
theorem EndsAfter.forall_mem_trace {I : σ → Prop} {P : β → Prop}
    (hI : ∀ s, I s → L.goesOn s = true → I (L.next s))
    (hemit : ∀ s, I s → L.goesOn s = true → P (L.emit s))
    (hfinal : ∀ s, I s → L.goesOn s = false → P (L.final s)) {n : ℕ} {s : σ}
    (h : L.EndsAfter n s) (hs : I s) : ∀ p ∈ L.trace n s, P p := by
  induction n generalizing s with
  | zero =>
      intro p hp
      rw [List.mem_singleton.1 hp]
      exact hfinal s hs h
  | succ n ih =>
      intro p hp
      rcases List.mem_cons.1 hp with rfl | hrest
      · exact hemit s hs h.1
      · exact ih h.2 (hI s hs h.1) p hrest

/-- Neighbours in the trace are related, if the values of two successive states are. -/
theorem EndsAfter.isChain_trace {I : σ → Prop} {R : β → β → Prop}
    (hI : ∀ s, I s → L.goesOn s = true → I (L.next s))
    (hemit : ∀ s, I s → L.goesOn s = true → L.goesOn (L.next s) = true →
      R (L.emit s) (L.emit (L.next s)))
    (hfinal : ∀ s, I s → L.goesOn s = true → L.goesOn (L.next s) = false →
      R (L.emit s) (L.final (L.next s))) {n : ℕ} {s : σ}
    (h : L.EndsAfter n s) (hs : I s) : (L.trace n s).IsChain R := by
  induction n generalizing s with
  | zero => exact List.isChain_singleton _
  | succ n ih =>
      have hrest := ih h.2 (hI s hs h.1)
      cases n with
      | zero => exact List.isChain_cons_cons.2 ⟨hfinal s hs h.1 h.2, hrest⟩
      | succ n => exact List.isChain_cons_cons.2 ⟨hemit s hs h.1 h.2.1, hrest⟩

/-- A loop ends, if every round makes a measure smaller. -/
theorem exists_endsAfter {I : σ → Prop} (μ : σ → ℕ)
    (hI : ∀ s, I s → L.goesOn s = true → I (L.next s))
    (hμ : ∀ s, I s → L.goesOn s = true → μ (L.next s) < μ s) {s : σ} (hs : I s) :
    ∃ n, L.EndsAfter n s := by
  induction hm : μ s using Nat.strong_induction_on generalizing s with
  | _ m ih =>
      by_cases hgo : L.goesOn s = true
      · obtain ⟨n, hn⟩ := ih (μ (L.next s)) (hm ▸ hμ s hs hgo) (hI s hs hgo) rfl
        exact ⟨n + 1, hgo, hn⟩
      · exact ⟨0, Bool.eq_false_iff.2 hgo⟩

/-! ## The state in which a loop ends -/

variable (L) in
/-- The loop ends, in a state that satisfies `P`. -/
def EndsIn (P : σ → Prop) (s : σ) : Prop := ∃ n, L.EndsAfter n s ∧ P (L.next^[n] s)

theorem EndsAfter.endsIn_iff {P : σ → Prop} {n : ℕ} {s : σ} (h : L.EndsAfter n s) :
    L.EndsIn P s ↔ P (L.next^[n] s) := by
  constructor
  · rintro ⟨m, hm, hP⟩
    rwa [h.unique hm]
  · exact fun hP => ⟨n, h, hP⟩

theorem endsIn_of_not_goesOn {P : σ → Prop} {s : σ} (h : L.goesOn s = false) :
    L.EndsIn P s ↔ P s :=
  EndsAfter.endsIn_iff (n := 0) h

theorem endsIn_of_goesOn {P : σ → Prop} {s : σ} (h : L.goesOn s = true) :
    L.EndsIn P s ↔ L.EndsIn P (L.next s) := by
  constructor
  · rintro ⟨n, hn, hP⟩
    cases n with
    | zero => exact absurd h (Bool.eq_false_iff.1 hn)
    | succ n => exact ⟨n, hn.2, hP⟩
  · rintro ⟨n, hn, hP⟩
    exact ⟨n + 1, ⟨h, hn⟩, hP⟩

/-! ## Two loops -/

/-- A relation that every round keeps relates all states that two loops pass. -/
theorem iterate_related {τ γ : Type*} {L' : BufferedLoop τ γ} {R : σ → τ → Prop}
    (hR : ∀ s t, R s t → R (L.next s) (L'.next t)) {s : σ} {t : τ} (h : R s t) (i : ℕ) :
    R (L.next^[i] s) (L'.next^[i] t) := by
  induction i generalizing s t with
  | zero => exact h
  | succ i ih => exact ih (hR s t h)

/-- A loop that goes on wherever a related one does takes at least as many rounds. -/
theorem EndsAfter.le_of_related {τ γ : Type*} {L' : BufferedLoop τ γ} {R : σ → τ → Prop}
    (hR : ∀ s t, R s t → R (L.next s) (L'.next t))
    (hgo : ∀ s t, R s t → L.goesOn s = true → L'.goesOn t = true) {s : σ} {t : τ}
    (h : R s t) {n m : ℕ} (hn : L.EndsAfter n s) (hm : L'.EndsAfter m t) : n ≤ m := by
  by_contra hlt
  have hgoes := hgo _ _ (iterate_related hR h m) ((endsAfter_iff.1 hn).1 m (not_le.1 hlt))
  rw [(endsAfter_iff.1 hm).2] at hgoes
  cases hgoes

end BufferedLoop

end Transition
