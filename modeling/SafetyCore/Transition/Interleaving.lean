import SafetyCore.Transition.Component
import Mathlib.Logic.Function.Basic

/-!
# Threads over shared memory

A thread program is a function `T a m l`: the action `a` taken by a thread with
private state `l` on the shared memory `m`. One action is one atomic access, so
`interleave T` lets any number of threads, indexed by `ι`, take their actions
one at a time in the order a schedule gives. A schedule is a list of pairs of a
thread and an action, and a run of the interleaving reads it like any other
list of events; this is sequential consistency.

`solo` runs one thread alone. `run_solo` says that a schedule of one thread is
its solo run inside the interleaving, with every other thread untouched.
-/

namespace Transition

/-- The shared memory together with the private state of every thread. -/
structure Interleaved (ι μ ℓ : Type*) where
  shared : μ
  loc : ι → ℓ

variable {ι μ ℓ α : Type*}

/-- The actions of one thread that runs alone. -/
def solo (T : α → μ → ℓ → μ × ℓ) (m : μ) (l : ℓ) : List α → μ × ℓ
  | [] => (m, l)
  | a :: as => solo T (T a m l).1 (T a m l).2 as

@[simp] theorem solo_nil (T : α → μ → ℓ → μ × ℓ) (m : μ) (l : ℓ) :
    solo T m l [] = (m, l) := rfl

@[simp] theorem solo_cons (T : α → μ → ℓ → μ × ℓ) (m : μ) (l : ℓ) (a : α)
    (as : List α) :
    solo T m l (a :: as) = solo T (T a m l).1 (T a m l).2 as := rfl

/-- What survives each action of a thread survives its solo run. -/
theorem solo_invariant {T : α → μ → ℓ → μ × ℓ} {I : μ → ℓ → Prop} {as : List α}
    (hI : ∀ a ∈ as, ∀ m l, I m l → I (T a m l).1 (T a m l).2) {m : μ} {l : ℓ}
    (h : I m l) : I (solo T m l as).1 (solo T m l as).2 := by
  induction as generalizing m l with
  | nil => exact h
  | cons a as ih =>
      exact ih (fun b hb => hI b (List.mem_cons_of_mem a hb))
        (hI a List.mem_cons_self m l h)

variable [DecidableEq ι]

/-- The threads take their actions one at a time, in the order of the
schedule. -/
def interleave (T : α → μ → ℓ → μ × ℓ) :
    Component (Interleaved ι μ ℓ) (ι × α) Unit where
  next s e :=
    { shared := (T e.2 s.shared (s.loc e.1)).1
      loc := Function.update s.loc e.1 (T e.2 s.shared (s.loc e.1)).2 }
  output _ _ := ()

variable (T : α → μ → ℓ → μ × ℓ)

@[simp] theorem interleave_shared (s : Interleaved ι μ ℓ) (i : ι) (a : α) :
    ((interleave T).next s (i, a)).shared = (T a s.shared (s.loc i)).1 := rfl

@[simp] theorem interleave_loc_self (s : Interleaved ι μ ℓ) (i : ι) (a : α) :
    ((interleave T).next s (i, a)).loc i = (T a s.shared (s.loc i)).2 := by
  simp [interleave]

theorem interleave_loc_of_ne (s : Interleaved ι μ ℓ) {i j : ι} (a : α)
    (h : j ≠ i) : ((interleave T).next s (i, a)).loc j = s.loc j := by
  simp [interleave, h]

/-- A property of the private states survives a step if the stepping thread
keeps it. -/
theorem forall_loc_next {Q : ℓ → Prop} {s : Interleaved ι μ ℓ} {i : ι} {a : α}
    (hs : ∀ j, Q (s.loc j)) (hi : Q (T a s.shared (s.loc i)).2) :
    ∀ j, Q (((interleave T).next s (i, a)).loc j) := by
  intro j
  by_cases h : j = i
  · subst j
    simpa using hi
  · rw [interleave_loc_of_ne T s a h]
    exact hs j

/-- A schedule that names one thread only runs that thread alone. -/
theorem run_solo (s : Interleaved ι μ ℓ) (i : ι) (as : List α) :
    (interleave T).run s (as.map (Prod.mk i)) =
      { shared := (solo T s.shared (s.loc i) as).1
        loc := Function.update s.loc i (solo T s.shared (s.loc i) as).2 } := by
  induction as generalizing s with
  | nil => simp
  | cons a as ih =>
      rw [List.map_cons, Component.run_cons, ih]
      simp [interleave]

end Transition
