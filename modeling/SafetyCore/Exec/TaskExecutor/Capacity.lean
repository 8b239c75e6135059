import SafetyCore.Exec.TaskExecutor

/-!
# The configured maximum of tasks

`add_task` looks for an unused slot among all the slots of the template, and reads the
configured maximum only to choose the text of a fault once every slot is used. Below the
template's capacity the maximum is no limit.
-/

namespace SafetyCore

open Arithmetic Transition

namespace TaskExecutor

variable {κ : Type} {capacity : ℕ} {α : Type*}

/-! ## One call -/

/-- The arguments with which `add_task` succeeds if it finds a slot. -/
structure Acceptable (x : TaskExecutor κ capacity) (fn : Option κ) (period now : ℤ) :
    Prop where
  fn_some : fn.isSome = true
  period_pos : 0 < x.usePeriod period
  latest : InInt64 (timePointMax - x.usePeriod period)
  release : InInt64 (now + x.usePeriod period)

/-- Every way out of `add_task`. -/
theorem addTask_outcome {x : TaskExecutor κ capacity} (hmax : x.maxTasks ≤ capacity)
    (fn : Option κ) (period now : ℤ) :
    (x.Acceptable fn period now ∧ x.tasks.length < capacity ∧
      ∃ slot diagnostics, x.addTask fn period now =
        some ({ x with tasks := x.tasks ++ [slot] }, .ok, diagnostics)) ∨
    (¬ (x.Acceptable fn period now ∧ x.tasks.length < capacity) ∧
      (x.addTask fn period now = none ∨
        ∃ r diagnostics, x.addTask fn period now = some (x, r, diagnostics) ∧
          r.isOk = false)) := by
  unfold addTask
  cases fn with
  | none => exact .inr ⟨fun h => absurd h.1.fn_some (by simp), .inr ⟨_, _, rfl, rfl⟩⟩
  | some fn =>
      dsimp only
      rw [if_neg (not_lt.2 hmax)]
      by_cases hzero : x.usePeriod period = 0
      · exact .inr ⟨fun h => h.1.period_pos.ne' hzero,
          .inr ⟨_, _, if_pos hzero, rfl⟩⟩
      rw [if_neg hzero]
      by_cases hfree : x.tasks.length < capacity
      · rw [if_pos hfree]
        by_cases hnonpos : x.usePeriod period ≤ 0
        · exact .inr ⟨fun h => absurd h.1.period_pos (not_lt.2 hnonpos),
            .inr ⟨_, _, dif_pos hnonpos, rfl⟩⟩
        rw [dif_neg hnonpos]
        by_cases hlatest : InInt64 (timePointMax - x.usePeriod period)
        · simp only [checked_of_inInt64 hlatest, Option.bind_eq_bind, Option.bind_some]
          by_cases hoverflow : timePointMax - x.usePeriod period < now
          · refine .inr ⟨fun h => ?_, .inr ⟨_, _, if_pos hoverflow, rfl⟩⟩
            have := h.1.release.2
            unfold timePointMax at hoverflow
            omega
          · rw [if_neg hoverflow]
            by_cases hrelease : InInt64 (now + x.usePeriod period)
            · rw [checked_of_inInt64 hrelease]
              exact .inl ⟨⟨rfl, not_le.1 hnonpos, hlatest, hrelease⟩, hfree, _, _, rfl⟩
            · exact .inr ⟨fun h => hrelease h.1.release, .inl (by simp [checked, hrelease])⟩
        · exact .inr ⟨fun h => hlatest h.1.latest, .inl (by simp [checked, hlatest])⟩
      · rw [if_neg hfree]
        refine .inr ⟨fun h => hfree h.2, .inr ?_⟩
        by_cases hfull : x.maxTasks ≤ x.tasks.length
        · exact ⟨_, _, if_pos hfull, rfl⟩
        · exact ⟨_, _, if_neg hfull, rfl⟩

/-- Running callbacks registers nothing. -/
theorem runSlots_length (x : TaskExecutor κ capacity) (now : ℤ) (respond : ℕ → Response)
    (index calls : ℕ) (slots : List (TaskSlot κ)) {round : Round κ}
    (h : x.runSlots now respond index calls slots = some round) :
    round.tasks.length = slots.length := by
  induction slots generalizing index calls round with
  | nil =>
      obtain rfl := Option.some.inj h
      rfl
  | cons slot slots ih =>
      rw [runSlots] at h
      split at h
      · obtain ⟨rest, hrest, hround⟩ := Option.bind_eq_some_iff.1 h
        obtain rfl := Option.some.inj hround
        simp [ih _ _ hrest]
      · obtain ⟨run, -, hround⟩ := Option.bind_eq_some_iff.1 h
        split at hround
        · obtain rfl := Option.some.inj hround
          rfl
        · obtain ⟨rest, hrest, hround⟩ := Option.bind_eq_some_iff.1 hround
          obtain rfl := Option.some.inj hround
          simp [ih _ _ hrest]

/-! ## Runs -/

/-- The call is an `add_task` that returns Ok. -/
def Registers (x : TaskExecutor κ capacity) (e : Event κ α) : Prop :=
  ∃ slot period now diagnostics, component.output x e = .added slot period now diagnostics

/-- The call is an `add_task` with acceptable arguments. -/
def AcceptableCall (x : TaskExecutor κ capacity) : Event κ α → Prop
  | .addTask fn period now => x.Acceptable fn period now
  | _ => False

/-- The maximum that an accepted `apply_config` brings. -/
def acceptedMaxTasks (capacity : ℕ) : Event κ α → Option ℕ
  | .applyConfig cfg =>
      if cfg.maxTasks.toNat ≤ capacity then some cfg.maxTasks.toNat else none
  | _ => none

theorem preserved_maxTasks_le :
    (component (κ := κ) (α := α)).Preserved
      fun x : TaskExecutor κ capacity => x.maxTasks ≤ capacity := by
  intro x e hx
  cases e with
  | applyConfig cfg =>
      simp only [component, applyConfig]
      split
      · exact hx
      · exact not_lt.1 ‹_›
  | setCatchUpPolicy policy maxRunsPerTick => exact hx
  | addTask fn period now =>
      simp only [component]
      rcases addTask_outcome hx fn period now with
        ⟨-, -, slot, diagnostics, heq⟩ | ⟨-, heq | ⟨r, diagnostics, heq, -⟩⟩ <;>
        rw [heq] <;> exact hx
  | runDue now respond =>
      simp only [component]
      split <;> exact hx

/-- A call registers a task exactly if its arguments are acceptable and a slot is unused. -/
theorem registers_iff {x : TaskExecutor κ capacity} (hmax : x.maxTasks ≤ capacity)
    (e : Event κ α) : x.Registers e ↔ x.AcceptableCall e ∧ x.tasks.length < capacity := by
  cases e with
  | applyConfig cfg => simp [Registers, AcceptableCall, component]
  | setCatchUpPolicy policy maxRunsPerTick => simp [Registers, AcceptableCall, component]
  | runDue now respond =>
      simp only [Registers, AcceptableCall, component, false_and, iff_false]
      rintro ⟨slot, period, now', diagnostics, h⟩
      split at h <;> exact absurd h (by simp)
  | addTask fn period now =>
      simp only [Registers, AcceptableCall, component]
      rcases addTask_outcome hmax fn period now with
        ⟨hacc, hfree, slot, diagnostics, heq⟩ | ⟨hnot, heq | ⟨r, diagnostics, heq, hr⟩⟩
      · simp [heq, hacc, hfree, Result.isOk, Result.ok]
      · simp [heq, hnot]
      · simp [heq, hnot, hr]

/-- Only a registration changes the number of tasks. -/
theorem length_tasks_next {x : TaskExecutor κ capacity} (hmax : x.maxTasks ≤ capacity)
    (e : Event κ α) :
    (component.next x e).tasks.length = x.tasks.length ∨
      x.Registers e ∧ (component.next x e).tasks.length = x.tasks.length + 1 := by
  cases e with
  | applyConfig cfg =>
      simp only [component, applyConfig]
      split <;> exact .inl rfl
  | setCatchUpPolicy policy maxRunsPerTick => exact .inl rfl
  | runDue now respond =>
      simp only [component]
      split
      · exact .inl (runSlots_length x now respond 0 0 x.tasks ‹_›)
      · exact .inl rfl
  | addTask fn period now =>
      rw [registers_iff hmax]
      simp only [component]
      rcases addTask_outcome hmax fn period now with
        ⟨hacc, hfree, slot, diagnostics, heq⟩ | ⟨-, heq | ⟨r, diagnostics, heq, -⟩⟩
      · rw [heq]
        exact .inr ⟨⟨hacc, hfree⟩, by simp⟩
      · rw [heq]
        exact .inl rfl
      · rw [heq]
        exact .inl rfl

/-- The call registers a task only below the maximum, and the number of tasks does not grow
beyond it. -/
structure KeepsTo (m : ℕ) (x : TaskExecutor κ capacity) (e : Event κ α) : Prop where
  below : x.Registers e → x.tasks.length < m
  length_le : (component.next x e).tasks.length ≤ max m x.tasks.length

/-- Every call of the run keeps to the maximum of the last accepted configuration. -/
def WithinMaxTasks (capacity : ℕ) (es : List (Event κ α)) : Prop :=
  ∀ pre e post, es = pre ++ e :: post →
    ∀ m, lastValue (acceptedMaxTasks capacity) pre = some m →
      KeepsTo m (component.run (initial : TaskExecutor κ capacity) pre) e

/-- The call would register a task beyond the maximum. -/
structure Overfills (m : ℕ) (x : TaskExecutor κ capacity) (e : Event κ α) : Prop where
  acceptable : x.AcceptableCall e
  full : m ≤ x.tasks.length
  free : x.tasks.length < capacity

theorem keepsTo_iff {x : TaskExecutor κ capacity} (hmax : x.maxTasks ≤ capacity) (m : ℕ)
    (e : Event κ α) : KeepsTo m x e ↔ ¬ Overfills m x e := by
  constructor
  · intro h hover
    have hregisters := (registers_iff hmax e).2 ⟨hover.acceptable, hover.free⟩
    exact absurd (h.below hregisters) (not_lt.2 hover.full)
  · intro h
    have hbelow (hregisters : x.Registers e) : x.tasks.length < m := by
      obtain ⟨hacc, hfree⟩ := (registers_iff hmax e).1 hregisters
      exact not_le.1 fun hfull => h ⟨hacc, hfull, hfree⟩
    refine ⟨hbelow, ?_⟩
    rcases length_tasks_next hmax e with heq | ⟨hregisters, heq⟩
    · rw [heq]
      exact le_max_right _ _
    · rw [heq]
      exact le_max_of_le_left (hbelow hregisters)

/-- For every capacity and every run, registrations keep to the configured maximum if and
only if no `add_task` with acceptable arguments is called when the maximum is reached and a
slot is still unused. -/
theorem withinMaxTasks_iff (es : List (Event κ α)) :
    WithinMaxTasks capacity es ↔
      ∀ pre e post, es = pre ++ e :: post →
        ∀ m, lastValue (acceptedMaxTasks capacity) pre = some m →
          ¬ Overfills m (component.run (initial : TaskExecutor κ capacity) pre) e := by
  have hmax (pre : List (Event κ α)) :
      (component.run (initial : TaskExecutor κ capacity) pre).maxTasks ≤ capacity :=
    preserved_maxTasks_le.run le_rfl pre
  unfold WithinMaxTasks
  simp only [keepsTo_iff (hmax _)]

/-- An executor with two slots is configured for one task, and takes two. -/
theorem not_withinMaxTasks :
    ¬ ∀ es : List (Event Unit ℚ), WithinMaxTasks 2 es := by
  intro h
  let cfg : SystemConfig ℚ := { makeConfig with maxTasks := 1 }
  have hkeeps := h [.applyConfig cfg, .addTask (some ()) 100 0, .addTask (some ()) 100 0]
    [.applyConfig cfg, .addTask (some ()) 100 0] (.addTask (some ()) 100 0) [] rfl 1 rfl
  exact absurd (hkeeps.below ⟨1, 100, 0, _, rfl⟩) (by decide)

end TaskExecutor

end SafetyCore
