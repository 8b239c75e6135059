import Mathlib.Tactic.Common

/-!
# Association lists

A finite map is kept as the list of its entries. `overwrite` replaces the value
of a key that has one, and a new key is added at the end; a lookup of one key
does not see what happens to another.
-/

namespace AssocList

variable {κ ν : Type*} [DecidableEq κ]

/-- Replace the value of the key `k`; without an entry for `k`, do nothing. -/
def overwrite (k : κ) (v : ν) (l : List (κ × ν)) : List (κ × ν) :=
  l.map fun entry => if entry.1 = k then (entry.1, v) else entry

theorem mem_of_lookup {l : List (κ × ν)} {k : κ} {v : ν} (h : l.lookup k = some v) :
    (k, v) ∈ l := by
  obtain ⟨l₁, l₂, rfl, -⟩ := List.lookup_eq_some_iff.1 h
  simp

theorem mem_overwrite {l : List (κ × ν)} {k : κ} {v : ν} {entry : κ × ν}
    (h : entry ∈ overwrite k v l) : entry = (k, v) ∨ entry ∈ l := by
  obtain ⟨old, hold, rfl⟩ := List.mem_map.1 h
  by_cases hk : old.1 = k
  · rw [if_pos hk, hk]
    exact .inl rfl
  · rw [if_neg hk]
    exact .inr hold

/-- Changing the values keeps the keys apart. -/
theorem lookup_map (f : κ → ν → ν) (l : List (κ × ν)) (k : κ) :
    (l.map fun entry => (entry.1, f entry.1 entry.2)).lookup k = (l.lookup k).map (f k) := by
  induction l with
  | nil => rfl
  | cons entry l ih =>
      obtain ⟨key, old⟩ := entry
      by_cases hk : k = key
      · simp [hk]
      · simp [List.lookup_cons, beq_false_of_ne hk, ih]

theorem overwrite_eq (k : κ) (v : ν) (l : List (κ × ν)) :
    overwrite k v l = l.map fun entry => (entry.1, if entry.1 = k then v else entry.2) := by
  refine List.map_congr_left fun entry _ => ?_
  split <;> rfl

theorem lookup_overwrite (k k' : κ) (v : ν) (l : List (κ × ν)) :
    (overwrite k v l).lookup k' = (l.lookup k').map fun old => if k' = k then v else old := by
  rw [overwrite_eq]
  exact lookup_map (fun key old => if key = k then v else old) l k'

theorem lookup_overwrite_self (k : κ) (v : ν) (l : List (κ × ν)) :
    (overwrite k v l).lookup k = (l.lookup k).map fun _ => v := by
  simp [lookup_overwrite]

theorem lookup_overwrite_of_ne {k k' : κ} (h : k' ≠ k) (v : ν) (l : List (κ × ν)) :
    (overwrite k v l).lookup k' = l.lookup k' := by
  simp [lookup_overwrite, h]

theorem lookup_concat_self {l : List (κ × ν)} {k : κ} (h : l.lookup k = none) (v : ν) :
    (l ++ [(k, v)]).lookup k = some v := by
  simp [List.lookup_append, h]

theorem lookup_concat_of_ne {k k' : κ} (h : k' ≠ k) (v : ν) (l : List (κ × ν)) :
    (l ++ [(k, v)]).lookup k' = l.lookup k' := by
  simp [List.lookup_append, List.lookup_cons, beq_false_of_ne h]

/-- A key that occurs once is looked up where it occurs. -/
theorem lookup_of_mem {l : List (κ × ν)} (hnodup : (l.map Prod.fst).Nodup) {k : κ} {v : ν}
    (h : (k, v) ∈ l) : l.lookup k = some v := by
  induction l with
  | nil => cases h
  | cons entry l ih =>
      obtain ⟨key, old⟩ := entry
      rw [List.map_cons, List.nodup_cons] at hnodup
      rcases List.mem_cons.1 h with heq | hmem
      · cases heq
        simp
      · have hk : k ≠ key := by
          rintro rfl
          exact hnodup.1 (List.mem_map.2 ⟨(k, v), hmem, rfl⟩)
        rw [List.lookup_cons, beq_false_of_ne hk]
        exact ih hnodup.2 hmem

/-- Overwriting the value of a key by what `f` makes of it changes the entries of that key. -/
theorem overwrite_eq_map {l : List (κ × ν)} (hnodup : (l.map Prod.fst).Nodup) {k : κ} {v : ν}
    (h : l.lookup k = some v) (f : ν → ν) :
    overwrite k (f v) l =
      l.map fun entry => (entry.1, if entry.1 = k then f entry.2 else entry.2) := by
  rw [overwrite_eq]
  refine List.map_congr_left fun entry hentry => ?_
  obtain ⟨key, old⟩ := entry
  by_cases hk : key = k
  · subst hk
    rw [lookup_of_mem hnodup hentry] at h
    simp [Option.some.inj h]
  · simp [hk]

end AssocList
