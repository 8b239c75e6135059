import Mathlib.Tactic.Ring
import SafetyCore.Exec.TaskExecutor

/-!
# The releases of a task

A slot that has dispatched `k` releases is the slot it was, advanced by `k` periods, and
the callback was called with the `k` releases in between. This holds of every way out of
the loops of `run_due`, so over a run the releases of a task are the multiples of its
period after its registration, each once and in order.
-/

namespace SafetyCore

open Arithmetic Transition

namespace TaskSlot

variable {κ : Type} (slot : TaskSlot κ)

/-- The slot after `k` more releases. -/
def advance (k : ℕ) : TaskSlot κ :=
  { slot with nextRelease := slot.nextRelease + k * slot.period }

/-- The next `k` releases. -/
def releases (k : ℕ) : List ℤ :=
  (List.range k).map fun m : ℕ => slot.nextRelease + m * slot.period

/-- The time points of the slot are time points after the epoch. -/
structure InRange : Prop where
  nonneg : 0 ≤ slot.nextRelease
  release_le : slot.nextRelease ≤ TaskExecutor.timePointMax
  period_le : slot.period ≤ TaskExecutor.timePointMax

@[simp] theorem advance_zero : slot.advance 0 = slot := by simp [advance]

@[simp] theorem releases_zero : slot.releases 0 = [] := rfl

@[simp] theorem advance_period (k : ℕ) : (slot.advance k).period = slot.period := rfl

@[simp] theorem advance_nextRelease (k : ℕ) :
    (slot.advance k).nextRelease = slot.nextRelease + k * slot.period := rfl

theorem advance_advance (j k : ℕ) : (slot.advance j).advance k = slot.advance (j + k) := by
  simp only [advance]
  congr 1
  push_cast
  ring

theorem releases_add (j k : ℕ) :
    slot.releases (j + k) = slot.releases j ++ (slot.advance j).releases k := by
  simp only [releases, List.range_add, List.map_append, List.map_map, advance]
  congr 1
  refine List.map_congr_left fun m _ => ?_
  simp only [Function.comp_apply]
  push_cast
  ring

theorem releases_one_add (k : ℕ) :
    slot.releases (1 + k) = slot.nextRelease :: (slot.advance 1).releases k := by
  rw [releases_add]
  simp [releases]

theorem releases_eq_nil_iff {k : ℕ} : slot.releases k = [] ↔ k = 0 := by
  simp [releases]

/-- Every release is later than the one before. -/
theorem add_le_advance_nextRelease (k : ℕ) :
    slot.nextRelease + k ≤ (slot.advance k).nextRelease := by
  have hmul : (k : ℤ) * 1 ≤ k * slot.period :=
    mul_le_mul_of_nonneg_left slot.period_pos (Int.natCast_nonneg k)
  rw [advance_nextRelease]
  omega

/-- Two different numbers of periods lead to different releases. -/
theorem advance_injective : Function.Injective slot.advance := by
  intro j k h
  have hrelease : slot.nextRelease + j * slot.period = slot.nextRelease + k * slot.period :=
    congrArg TaskSlot.nextRelease h
  have hmul : (j : ℤ) * slot.period = k * slot.period := add_left_cancel hrelease
  exact_mod_cast mul_right_cancel₀ slot.period_pos.ne' hmul

/-- The slot after a dispatch is in range, as its deadline is. -/
theorem InRange.advance_one {slot : TaskSlot κ} (hslot : slot.InRange)
    (hroom : ¬ TaskExecutor.timePointMax - slot.period < slot.nextRelease) :
    (slot.advance 1).InRange where
  nonneg := by
    have := hslot.nonneg
    have := slot.period_pos
    simp only [advance_nextRelease]
    omega
  release_le := by
    simp only [advance_nextRelease]
    omega
  period_le := hslot.period_le

end TaskSlot

namespace TaskExecutor

variable {κ : Type} {capacity : ℕ} (x : TaskExecutor κ capacity)

/-- Every due slot is given at least one run. -/
theorem exists_runLimit_eq : ∃ remaining, x.runLimit = remaining + 1 := by
  unfold runLimit
  cases x.catchUpPolicy with
  | singleStep => exact ⟨0, rfl⟩
  | boundedCatchUp => exact Nat.exists_eq_add_one.2 x.catchUpLimit_pos

/-! ## One slot -/

/-- The slot has been advanced by as many periods as its callback was called with
releases; all of them were due and within the watchdog window. -/
structure SlotRun.Advances (now : ℤ) (slot : TaskSlot κ) (run : SlotRun κ) : Prop where
  task : run.task = slot.advance run.releases.length
  releases : run.releases = slot.releases run.releases.length
  inRange : run.task.InRange
  due : ∀ release ∈ run.releases,
    release ≤ now ∧ (0 < x.watchdogPeriod → now - release ≤ x.watchdogPeriod)
  exit_ne : run.exit ≠ some .progressionOverflow

/-- A run that calls no callback. -/
theorem SlotRun.advances_idle {now : ℤ} {slot : TaskSlot κ} (h : slot.InRange)
    (diagnostics : List Diagnostic) (exit : Option Exit)
    (hexit : exit ≠ some .progressionOverflow) :
    SlotRun.Advances x now slot
      { task := slot, releases := [], diagnostics := diagnostics, exit := exit } where
  task := by simp
  releases := by simp
  inRange := h
  due := by simp
  exit_ne := hexit

/-- A run that calls the callback once, and then goes on from the next release. -/
theorem SlotRun.Advances.cons {now : ℤ} {slot : TaskSlot κ} {rest : SlotRun κ}
    (hdue : slot.nextRelease ≤ now)
    (hlag : 0 < x.watchdogPeriod → now - slot.nextRelease ≤ x.watchdogPeriod)
    (h : SlotRun.Advances x now (slot.advance 1) rest) :
    SlotRun.Advances x now slot
      { rest with releases := slot.nextRelease :: rest.releases } where
  task := by
    rw [h.task, TaskSlot.advance_advance, List.length_cons, Nat.add_comm]
  releases := by
    rw [List.length_cons, Nat.add_comm, TaskSlot.releases_one_add, ← h.releases]
  inRange := h.inRange
  due := by
    intro release hmem
    rcases List.mem_cons.1 hmem with rfl | hmem
    · exact ⟨hdue, hlag⟩
    · exact h.due release hmem
  exit_ne := h.exit_ne

/-- A lag that is a time point is computed without overflow. -/
theorem watchdogLag_eq {now release : ℤ} (hlag : InInt64 (now - release)) :
    x.watchdogLag now release =
      some (if 0 < x.watchdogPeriod ∧ x.watchdogPeriod < now - release then
        some (now - release) else none) := by
  unfold watchdogLag
  by_cases hon : 0 < x.watchdogPeriod
  · simp [hon, checked_of_inInt64 hlag]
  · simp [hon]

/-- The loop body on time points after the epoch, where no computation overflows. -/
theorem runTask_succ {now : ℤ} (hmax : now ≤ timePointMax) (respond : ℕ → Response)
    (remaining calls : ℕ) (slot : TaskSlot κ) (hslot : slot.InRange) :
    x.runTask now respond (remaining + 1) calls slot =
      if now < slot.nextRelease then
        some { task := slot }
      else if timePointMax - slot.period < slot.nextRelease then
        some
          { task := slot
            diagnostics := [⟨kExecutorTaskError, "reason=deadline_overflow"⟩]
            exit := some .deadlineOverflow }
      else if 0 < x.watchdogPeriod ∧ x.watchdogPeriod < now - slot.nextRelease then
        some
          { task := slot
            diagnostics :=
              [⟨kExecutorWatchdogExceeded,
                "lag_ns=" ++ toString (now - slot.nextRelease)⟩]
            exit := some .watchdogExceeded }
      else if !(respond calls).result.isOk then
        some
          { task := slot.advance 1
            releases := [slot.nextRelease]
            diagnostics :=
              [⟨kExecutorTaskError,
                "code=" ++ toString (codeNumber (respond calls).result.code)⟩]
            exit := some (.taskFailed (respond calls).result) }
      else if slot.nextRelease + slot.period < (respond calls).now then
        some
          { task := slot.advance 1
            releases := [slot.nextRelease]
            diagnostics :=
              [⟨kExecutorDeadlineMiss,
                "deadline_ns=" ++ toString (slot.nextRelease + slot.period)⟩]
            exit := some .overranDeadline }
      else
        (x.runTask now respond remaining (calls + 1) (slot.advance 1)).map fun rest =>
          { rest with releases := slot.nextRelease :: rest.releases } := by
  have hperiod : ¬ slot.period ≤ 0 := not_le.2 slot.period_pos
  have hlatest : InInt64 (timePointMax - slot.period) :=
    inInt64_of_nonneg (sub_nonneg.2 hslot.period_le) (sub_le_self _ slot.period_pos.le)
  have hadvance : ({ slot with nextRelease := slot.nextRelease + slot.period } :
      TaskSlot κ) = slot.advance 1 := by
    simp [TaskSlot.advance]
  rw [runTask]
  by_cases hdue : now < slot.nextRelease
  · rw [if_pos hdue, if_pos hdue]
  have hlag : InInt64 (now - slot.nextRelease) :=
    inInt64_of_nonneg (sub_nonneg.2 (not_lt.1 hdue))
      ((sub_le_self _ hslot.nonneg).trans hmax)
  simp only [hdue, if_false, hperiod, checked_of_inInt64 hlatest,
    x.watchdogLag_eq hlag, Option.bind_eq_bind, Option.bind_some]
  by_cases hoverflow : timePointMax - slot.period < slot.nextRelease
  · rw [if_pos hoverflow, if_pos hoverflow]
  by_cases hwatchdog : 0 < x.watchdogPeriod ∧ x.watchdogPeriod < now - slot.nextRelease
  · simp only [hoverflow, if_false, hwatchdog, and_self, if_true]
  have hnext : InInt64 (slot.nextRelease + slot.period) :=
    inInt64_of_nonneg (add_nonneg hslot.nonneg slot.period_pos.le) (by
      have := not_lt.1 hoverflow
      unfold timePointMax at this
      omega)
  simp only [hoverflow, if_false, hwatchdog, checked_of_inInt64 hnext, Option.bind_some,
    hadvance]
  congr 2
  cases x.runTask now respond remaining (calls + 1) (slot.advance 1) <;> rfl

/-- A run that calls the callback once and returns. -/
theorem SlotRun.advances_last {now : ℤ} {slot : TaskSlot κ}
    (h : (slot.advance 1).InRange) (hdue : slot.nextRelease ≤ now)
    (hlag : 0 < x.watchdogPeriod → now - slot.nextRelease ≤ x.watchdogPeriod)
    (diagnostics : List Diagnostic) (exit : Option Exit)
    (hexit : exit ≠ some .progressionOverflow) :
    SlotRun.Advances x now slot
      { task := slot.advance 1, releases := [slot.nextRelease],
        diagnostics := diagnostics, exit := exit } :=
  (SlotRun.advances_idle x h diagnostics exit hexit).cons x hdue hlag

/-- Every way out of the loop leaves an advanced slot. -/
theorem runTask_advances {now : ℤ} (hmax : now ≤ timePointMax) (respond : ℕ → Response)
    (remaining calls : ℕ) (slot : TaskSlot κ) (hslot : slot.InRange) :
    ∃ run, x.runTask now respond remaining calls slot = some run ∧
      SlotRun.Advances x now slot run := by
  induction remaining generalizing calls slot with
  | zero =>
      unfold runTask
      split
      case isTrue hlimited =>
        have hlag : InInt64 (now - slot.nextRelease) :=
          inInt64_of_nonneg (sub_nonneg.2 hlimited.2)
            ((sub_le_self _ hslot.nonneg).trans hmax)
        simp only [checked_of_inInt64 hlag]
        exact ⟨_, rfl, SlotRun.advances_idle x hslot _ _ (by simp)⟩
      case isFalse =>
        exact ⟨_, rfl, SlotRun.advances_idle x hslot _ _ (by simp)⟩
  | succ remaining ih =>
      rw [x.runTask_succ hmax respond remaining calls slot hslot]
      split
      · exact ⟨_, rfl, SlotRun.advances_idle x hslot _ _ (by simp)⟩
      rename_i hdue
      split
      · exact ⟨_, rfl, SlotRun.advances_idle x hslot _ _ (by simp)⟩
      rename_i hroom
      have hnext := hslot.advance_one hroom
      split
      · exact ⟨_, rfl, SlotRun.advances_idle x hslot _ _ (by simp)⟩
      rename_i hwatchdog
      have hlag : 0 < x.watchdogPeriod → now - slot.nextRelease ≤ x.watchdogPeriod :=
        fun hon => not_lt.1 fun h => hwatchdog ⟨hon, h⟩
      split
      · exact ⟨_, rfl, SlotRun.advances_last x hnext (not_lt.1 hdue) hlag _ _ (by simp)⟩
      split
      · exact ⟨_, rfl, SlotRun.advances_last x hnext (not_lt.1 hdue) hlag _ _ (by simp)⟩
      · obtain ⟨rest, hrest, hadvances⟩ := ih (calls + 1) (slot.advance 1) hnext
        rw [hrest]
        exact ⟨_, rfl, hadvances.cons x (not_lt.1 hdue) hlag⟩

/-! ## All slots -/

/-- The releases among the dispatches to the slot numbered `i`. -/
def releasesOf (i : ℕ) (dispatches : List Dispatch) : List ℤ :=
  (dispatches.filter (·.slot = i)).map (·.release)

@[simp] theorem releasesOf_nil (i : ℕ) : releasesOf i [] = [] := rfl

theorem releasesOf_append (i : ℕ) (ds es : List Dispatch) :
    releasesOf i (ds ++ es) = releasesOf i ds ++ releasesOf i es := by
  simp [releasesOf]

theorem releasesOf_self (i : ℕ) (releases : List ℤ) :
    releasesOf i (releases.map (Dispatch.mk i)) = releases := by
  simp [releasesOf, List.filter_map, Function.comp_def]

theorem releasesOf_eq_nil {i : ℕ} {ds : List Dispatch} (h : ∀ d ∈ ds, d.slot ≠ i) :
    releasesOf i ds = [] := by
  simpa [releasesOf] using h

/-- Every slot has been advanced, and its dispatches are those of the slot. -/
structure Round.Advances (now : ℤ) (index : ℕ) (slots : List (TaskSlot κ))
    (round : Round κ) : Prop where
  length : round.tasks.length = slots.length
  slot : ∀ j slot, slots[j]? = some slot → ∃ k, round.tasks[j]? = some (slot.advance k) ∧
    (slot.advance k).InRange ∧ releasesOf (index + j) round.dispatches = slot.releases k
  dispatch : ∀ d ∈ round.dispatches, index ≤ d.slot ∧ d.slot < index + slots.length ∧
    d.release ≤ now ∧ (0 < x.watchdogPeriod → now - d.release ≤ x.watchdogPeriod)
  exit_ne : round.exit ≠ .progressionOverflow

/-- Slots that no callback is called for. -/
theorem Round.advances_idle (now : ℤ) (index : ℕ) {slots : List (TaskSlot κ)}
    (hslots : ∀ slot ∈ slots, slot.InRange) (diagnostics : List Diagnostic) (exit : Exit)
    (hexit : exit ≠ .progressionOverflow) :
    Round.Advances x now index slots ⟨slots, [], diagnostics, exit⟩ where
  length := rfl
  slot := by
    intro j slot hj
    exact ⟨0, by simpa using hj, by simpa using hslots slot (List.mem_of_getElem? hj),
      by simp⟩
  dispatch := by simp
  exit_ne := hexit

/-- A slot in front of the others. -/
theorem Round.Advances.cons {now : ℤ} {index : ℕ} {slot : TaskSlot κ}
    {slots : List (TaskSlot κ)} {run : SlotRun κ} {rest : Round κ}
    (hrun : SlotRun.Advances x now slot run)
    (hrest : Round.Advances x now (index + 1) slots rest) (diagnostics : List Diagnostic) :
    Round.Advances x now index (slot :: slots)
      ⟨run.task :: rest.tasks, run.releases.map (Dispatch.mk index) ++ rest.dispatches,
        diagnostics, rest.exit⟩ where
  length := by simp [hrest.length]
  slot := by
    intro j slot' hj
    cases j with
    | zero =>
        obtain rfl : slot = slot' := by simpa using hj
        have hothers : releasesOf index rest.dispatches = [] :=
          releasesOf_eq_nil fun d hd => by
            have := (hrest.dispatch d hd).1
            omega
        refine ⟨run.releases.length, by simp [← hrun.task], hrun.task ▸ hrun.inRange, ?_⟩
        rw [Nat.add_zero, releasesOf_append, releasesOf_self, hothers, List.append_nil]
        exact hrun.releases
    | succ j =>
        obtain ⟨k, htask, hrange, hreleases⟩ := hrest.slot j slot' (by simpa using hj)
        have hfirst : releasesOf (index + (j + 1)) (run.releases.map (Dispatch.mk index)) =
            [] :=
          releasesOf_eq_nil fun d hd => by
            obtain ⟨release, -, rfl⟩ := List.mem_map.1 hd
            simp
        refine ⟨k, by simpa using htask, hrange, ?_⟩
        rw [releasesOf_append, hfirst, List.nil_append, ← hreleases]
        congr 1
        omega
  dispatch := by
    intro d hd
    rcases List.mem_append.1 hd with hd | hd
    · obtain ⟨release, hmem, rfl⟩ := List.mem_map.1 hd
      exact ⟨le_rfl, by simp, hrun.due release hmem⟩
    · obtain ⟨hlo, hhi, hdue⟩ := hrest.dispatch d hd
      simp only [List.length_cons]
      exact ⟨by omega, by omega, hdue⟩
  exit_ne := hrest.exit_ne

/-- On time points after the epoch no computation overflows, and every way out of
`run_due` leaves advanced slots. -/
theorem runSlots_advances {now : ℤ} (hmax : now ≤ timePointMax) (respond : ℕ → Response)
    (index calls : ℕ) (slots : List (TaskSlot κ)) (hslots : ∀ slot ∈ slots, slot.InRange) :
    ∃ round, x.runSlots now respond index calls slots = some round ∧
      Round.Advances x now index slots round := by
  induction slots generalizing index calls with
  | nil => exact ⟨_, rfl, Round.advances_idle x now index (by simp) _ _ (by simp)⟩
  | cons slot slots ih =>
      have hslot := hslots slot List.mem_cons_self
      have hrest := fun s hs => hslots s (List.mem_cons_of_mem slot hs)
      unfold runSlots
      by_cases hdue : now < slot.nextRelease
      · obtain ⟨rest, heq, hadvances⟩ := ih (index + 1) calls hrest
        have hidle : SlotRun.Advances x now slot { task := slot } :=
          SlotRun.advances_idle x hslot _ _ (by simp)
        rw [if_pos hdue, heq]
        exact ⟨_, rfl, by simpa using Round.Advances.cons x hidle hadvances rest.diagnostics⟩
      · obtain ⟨run, hrun, hsound⟩ :=
          x.runTask_advances hmax respond x.runLimit calls slot hslot
        simp only [hdue, if_false, hrun, Option.bind_eq_bind, Option.bind_some]
        cases hexit : run.exit with
        | some exit =>
            have hne : exit ≠ .progressionOverflow := fun h => hsound.exit_ne (h ▸ hexit)
            have hidle := Round.advances_idle x now (index + 1) hrest run.diagnostics
              exit hne
            exact ⟨_, rfl, by simpa using Round.Advances.cons x hsound hidle run.diagnostics⟩
        | none =>
            obtain ⟨rest, heq, hadvances⟩ :=
              ih (index + 1) (calls + run.releases.length) hrest
            simp only [heq, Option.bind_some]
            exact ⟨_, rfl, Round.Advances.cons x hsound hadvances _⟩

/-! ## Runs -/

/-- The durations are 64-bit numbers and the time points are not before the epoch. -/
def Event.InRange {α : Type*} : Event κ α → Prop
  | .applyConfig cfg => InInt64 cfg.timing.controlPeriod ∧ InInt64 cfg.timing.watchdogPeriod
  | .setCatchUpPolicy _ _ => True
  | .addTask _ period now => InInt64 period ∧ 0 ≤ now ∧ now ≤ timePointMax
  | .runDue now _ => 0 ≤ now ∧ now ≤ timePointMax

structure InRange : Prop where
  defaultPeriod_le : x.defaultPeriod ≤ timePointMax
  slots : ∀ slot ∈ x.tasks, slot.InRange

/-- The clock reading and the period of a registration in the slot numbered `i`. -/
def Output.registration (i : ℕ) : Output → Option (ℤ × ℤ)
  | .added slot period now _ => if slot = i then some (now, period) else none
  | _ => none

/-- The releases that the callback in the slot numbered `i` was called with. -/
def Output.releases (i : ℕ) : Output → List ℤ
  | .ran _ dispatches _ => releasesOf i dispatches
  | _ => []

/-- One slot after a run with these outputs: it was registered once, at `a`, and the
callback was called with the `k` releases that followed. -/
structure Accounted (outputs : List Output) (i : ℕ) (slot : TaskSlot κ) (a : ℤ) (k : ℕ) :
    Prop where
  registration : outputs.filterMap (Output.registration i) = [(a, slot.period)]
  releases : outputs.flatMap (Output.releases i) =
    (List.range k).map fun m : ℕ => a + (m + 1) * slot.period
  nextRelease : slot.nextRelease = a + (k + 1) * slot.period

/-- A call overflows nowhere, and a `run_due` only dispatches what is due and within the
watchdog window. -/
def StepSound {α : Type*} (x : TaskExecutor κ capacity) (e : Event κ α) : Prop :=
  component.output x e ≠ .overflow ∧
    ∀ now respond, e = .runDue now respond →
      ∀ exit dispatches diagnostics,
        component.output x e = .ran exit dispatches diagnostics →
        exit ≠ .progressionOverflow ∧
          ∀ d ∈ dispatches, d.release ≤ now ∧
            (0 < x.watchdogPeriod → now - d.release ≤ x.watchdogPeriod)

/-- What `add_task` does. -/
theorem addTask_cases {x : TaskExecutor κ capacity} (hx : x.InRange) (fn : Option κ)
    {period now : ℤ} (hperiod : InInt64 period) (hnow : 0 ≤ now) :
    (∃ r diagnostics, x.addTask fn period now = some (x, r, diagnostics) ∧
        r.isOk = false) ∨
      ∃ slot diagnostics,
        x.addTask fn period now =
          some ({ x with tasks := x.tasks ++ [slot] }, .ok, diagnostics) ∧
        slot.period = x.usePeriod period ∧ slot.nextRelease = now + slot.period ∧
        slot.InRange := by
  have hle : x.usePeriod period ≤ timePointMax := by
    unfold usePeriod
    split
    · exact hx.defaultPeriod_le
    · exact hperiod.2
  unfold addTask
  cases fn with
  | none => exact .inl ⟨_, _, rfl, rfl⟩
  | some fn =>
      dsimp only
      by_cases hzero : x.usePeriod period = 0
      · exact .inl ⟨_, _, by rw [if_pos hzero], rfl⟩
      by_cases hinternal : capacity < x.maxTasks
      · exact .inl ⟨_, _, by rw [if_neg hzero, if_pos hinternal], rfl⟩
      by_cases hfree : x.tasks.length < capacity
      · by_cases hnonpos : x.usePeriod period ≤ 0
        · exact .inl ⟨_, _, by rw [if_neg hzero, if_neg hinternal, if_pos hfree,
            dif_pos hnonpos], rfl⟩
        · have hlatest : InInt64 (timePointMax - x.usePeriod period) :=
            inInt64_of_nonneg (sub_nonneg.2 hle) (sub_le_self _ (not_le.1 hnonpos).le)
          simp only [hzero, hinternal, hfree, hnonpos, if_false, if_true, dif_neg,
            not_false_eq_true, checked_of_inInt64 hlatest, Option.bind_eq_bind,
            Option.bind_some]
          by_cases hoverflow : timePointMax - x.usePeriod period < now
          · exact .inl ⟨_, _, by rw [if_pos hoverflow], rfl⟩
          · have hroom : now + x.usePeriod period ≤ timePointMax := by omega
            have hrelease : 0 ≤ now + x.usePeriod period := by omega
            rw [if_neg hoverflow, checked_of_inInt64 (inInt64_of_nonneg hrelease hroom)]
            exact .inr ⟨_, _, rfl, rfl, rfl, hrelease, hroom, hle⟩
      · by_cases hfull : x.maxTasks ≤ x.tasks.length
        · exact .inl ⟨_, _, by rw [if_neg hzero, if_neg hinternal, if_neg hfree,
            if_pos hfull], rfl⟩
        · exact .inl ⟨_, _, by rw [if_neg hzero, if_neg hinternal, if_neg hfree,
            if_neg hfull], rfl⟩

theorem runDue_advances {x : TaskExecutor κ capacity} (hx : x.InRange) {now : ℤ}
    (hmax : now ≤ timePointMax) (respond : ℕ → Response) :
    ∃ round, x.runDue now respond = some round ∧
      Round.Advances x now 0 x.tasks round :=
  x.runSlots_advances hmax respond 0 0 x.tasks hx.slots

/-- The slots stay in range. -/
theorem Round.Advances.inRange {x : TaskExecutor κ capacity} (hx : x.InRange) {now : ℤ}
    {round : Round κ} (h : Round.Advances x now 0 x.tasks round) :
    ({ x with tasks := round.tasks } : TaskExecutor κ capacity).InRange := by
  refine ⟨hx.defaultPeriod_le, fun s hs => ?_⟩
  obtain ⟨j, hj⟩ := List.mem_iff_getElem?.1 hs
  have hlt : j < x.tasks.length := by
    rw [← h.length]
    exact (List.getElem?_eq_some_iff.1 hj).1
  obtain ⟨k, htask, hrange, -⟩ := h.slot j x.tasks[j] (List.getElem?_eq_getElem hlt)
  rw [hj] at htask
  rwa [Option.some.inj htask]

theorem initial_inRange : (initial : TaskExecutor κ capacity).InRange :=
  ⟨by norm_num [initial, timePointMax, int64Max], by simp [initial]⟩

theorem next_inRange {α : Type*} {x : TaskExecutor κ capacity} {e : Event κ α}
    (he : e.InRange) (hx : x.InRange) : (component.next x e).InRange := by
  cases e with
  | applyConfig cfg =>
      simp only [component, applyConfig]
      split
      · exact hx
      · exact ⟨he.1.2, hx.slots⟩
  | setCatchUpPolicy policy maxRunsPerTick => exact ⟨hx.defaultPeriod_le, hx.slots⟩
  | addTask fn period now =>
      rcases addTask_cases hx fn he.1 he.2.1 with ⟨r, diagnostics, heq, -⟩ |
        ⟨slot, diagnostics, heq, -, -, hslot⟩
      · simpa only [component, heq] using hx
      · simp only [component, heq]
        refine ⟨hx.defaultPeriod_le, fun s hs => ?_⟩
        rcases List.mem_append.1 hs with hs | hs
        · exact hx.slots s hs
        · rwa [List.mem_singleton.1 hs]
  | runDue now respond =>
      obtain ⟨round, heq, hround⟩ := runDue_advances hx he.2 respond
      simp only [component, heq]
      exact hround.inRange hx

theorem run_inRange {α : Type*} {es : List (Event κ α)}
    (hes : component.Along (fun _ e => e.InRange) (initial : TaskExecutor κ capacity) es) :
    (component.run (initial : TaskExecutor κ capacity) es).InRange :=
  Component.Along.run (fun _ _ => next_inRange) initial_inRange hes

theorem stepSound {α : Type*} {x : TaskExecutor κ capacity} {e : Event κ α}
    (he : e.InRange) (hx : x.InRange) : StepSound x e := by
  cases e with
  | applyConfig cfg => exact ⟨by simp [component], by simp⟩
  | setCatchUpPolicy policy maxRunsPerTick => exact ⟨by simp [component], by simp⟩
  | addTask fn period now =>
      refine ⟨?_, by simp⟩
      rcases addTask_cases hx fn he.1 he.2.1 with ⟨r, diagnostics, heq, hr⟩ |
        ⟨slot, diagnostics, heq, -⟩
      · simp [component, heq, hr]
      · simp [component, heq, Result.isOk, Result.ok]
  | runDue now respond =>
      obtain ⟨round, heq, hround⟩ := runDue_advances hx he.2 respond
      refine ⟨by simp [component, heq], ?_⟩
      rintro _ _ ⟨⟩ exit dispatches diagnostics hran
      simp only [component, heq, Output.ran.injEq] at hran
      obtain ⟨rfl, rfl, -⟩ := hran
      exact ⟨hround.exit_ne, fun d hd => (hround.dispatch d hd).2.2⟩

/-- What the outputs say about a slot, used or not. -/
def SlotAccounted (outputs : List Output) (i : ℕ) : Option (TaskSlot κ) → Prop
  | some slot => ∃ a k, Accounted outputs i slot a k
  | none => outputs.filterMap (Output.registration i) = [] ∧
      outputs.flatMap (Output.releases i) = []

/-- An output that adds the releases of `k'` periods. -/
theorem Accounted.advance {outputs : List Output} {i : ℕ} {slot : TaskSlot κ} {a : ℤ}
    {k : ℕ} (h : Accounted outputs i slot a k) {o : Output} {k' : ℕ}
    (hregistration : o.registration i = none) (hreleases : o.releases i = slot.releases k') :
    Accounted (outputs ++ [o]) i (slot.advance k') a (k + k') where
  registration := by simpa [List.filterMap_append, hregistration] using h.registration
  releases := by
    simp only [List.flatMap_append, h.releases, List.flatMap_singleton, hreleases,
      TaskSlot.releases, List.range_add, List.map_append, List.map_map, h.nextRelease,
      TaskSlot.advance_period]
    congr 1
    refine List.map_congr_left fun m _ => ?_
    simp only [Function.comp_apply]
    push_cast
    ring
  nextRelease := by
    simp only [TaskSlot.advance_nextRelease, h.nextRelease, TaskSlot.advance_period]
    push_cast
    ring

/-- An output that is silent about the slot. -/
theorem SlotAccounted.silent {outputs : List Output} {i : ℕ} {slot : Option (TaskSlot κ)}
    (h : SlotAccounted outputs i slot) {o : Output} (hregistration : o.registration i = none)
    (hreleases : o.releases i = []) : SlotAccounted (outputs ++ [o]) i slot := by
  cases slot with
  | none =>
      simpa [SlotAccounted, List.filterMap_append, hregistration, hreleases] using h
  | some slot =>
      obtain ⟨a, k, hk⟩ := h
      have hnone : o.releases i = slot.releases 0 := by simpa using hreleases
      exact ⟨a, k, by simpa using hk.advance hregistration hnone⟩

/-- Every call keeps the accounts of every slot. -/
theorem slotAccounted_next {α : Type*} {x : TaskExecutor κ capacity} {e : Event κ α}
    (he : e.InRange) (hx : x.InRange) {outputs : List Output} {i : ℕ}
    (h : SlotAccounted outputs i x.tasks[i]?) :
    SlotAccounted (outputs ++ [component.output x e]) i (component.next x e).tasks[i]? := by
  cases e with
  | applyConfig cfg =>
      have htasks : (component.next x (.applyConfig cfg)).tasks = x.tasks := by
        simp only [component, applyConfig]
        split <;> rfl
      rw [htasks]
      exact h.silent rfl rfl
  | setCatchUpPolicy policy maxRunsPerTick => exact h.silent rfl rfl
  | addTask fn period now =>
      rcases addTask_cases hx fn he.1 he.2.1 with ⟨r, diagnostics, heq, hr⟩ |
        ⟨slot, diagnostics, heq, hperiod, hrelease, -⟩
      · simp only [component, heq, hr]
        exact h.silent rfl rfl
      · have houtput : component.output x (.addTask fn period now : Event κ α) =
            .added x.tasks.length slot.period now diagnostics := by
          simp [component, heq, hperiod, Result.isOk, Result.ok]
        have htasks : (component.next x (.addTask fn period now : Event κ α)).tasks =
            x.tasks ++ [slot] := by
          simp [component, heq]
        rw [houtput, htasks]
        rcases lt_trichotomy i x.tasks.length with hlt | rfl | hgt
        · rw [List.getElem?_append_left hlt]
          exact h.silent (by simp [Output.registration, hlt.ne']) rfl
        · -- the slot that is filled
          rw [List.getElem?_eq_none le_rfl] at h
          rw [List.getElem?_append_right le_rfl, Nat.sub_self, List.getElem?_cons_zero]
          refine ⟨now, 0, ?_, ?_, by simpa using hrelease⟩
          · simp [List.filterMap_append, h.1, Output.registration]
          · simp [h.2, Output.releases]
        · have hnone : (x.tasks ++ [slot])[i]? = none :=
            List.getElem?_eq_none (by simpa using Nat.succ_le_of_lt hgt)
          rw [List.getElem?_eq_none hgt.le] at h
          rw [hnone]
          exact h.silent (by simp [Output.registration, hgt.ne]) rfl
  | runDue now respond =>
      obtain ⟨round, heq, hround⟩ := runDue_advances hx he.2 respond
      have houtput : component.output x (.runDue now respond : Event κ α) =
          .ran round.exit round.dispatches round.diagnostics := by
        simp [component, heq]
      have htasks : (component.next x (.runDue now respond : Event κ α)).tasks =
          round.tasks := by
        simp [component, heq]
      rw [houtput, htasks]
      cases hi : x.tasks[i]? with
      | none =>
          rw [hi] at h
          have hlen : x.tasks.length ≤ i := List.getElem?_eq_none_iff.1 hi
          rw [List.getElem?_eq_none (hround.length ▸ hlen)]
          refine h.silent rfl (releasesOf_eq_nil fun d hd => ?_)
          have := (hround.dispatch d hd).2.1
          omega
      | some slot =>
          rw [hi] at h
          obtain ⟨a, k, hk⟩ := h
          obtain ⟨k', htask, -, hreleases⟩ := hround.slot i slot hi
          rw [htask]
          exact ⟨a, k + k', hk.advance rfl (by simpa [Output.releases] using hreleases)⟩

/-- In every run, with any callbacks and with time points after the epoch in any order:
the callback in a slot has been called with the releases `a + P`, ..., `a + k * P` of its
task, in this order and each once, and the next release follows them; no other slot has
been dispatched; no computation overflows, and every dispatch was due and within the
watchdog window. -/
theorem run_releases {α : Type*} (es : List (Event κ α))
    (hes : component.Along (fun _ e => e.InRange) (initial : TaskExecutor κ capacity) es) :
    (∀ (i : ℕ) (slot : TaskSlot κ),
      (component.run (initial : TaskExecutor κ capacity) es).tasks[i]? = some slot →
      ∃ a k, Accounted (component.outputs (initial : TaskExecutor κ capacity) es) i slot
        a k) ∧
      (∀ i : ℕ, (component.run (initial : TaskExecutor κ capacity) es).tasks[i]? = none →
        (component.outputs (initial : TaskExecutor κ capacity) es).flatMap
          (Output.releases i) = []) ∧
      component.Along StepSound (initial : TaskExecutor κ capacity) es := by
  have haccounted : ∀ i, SlotAccounted
      (component.outputs (initial : TaskExecutor κ capacity) es) i
      (component.run (initial : TaskExecutor κ capacity) es).tasks[i]? := by
    refine (Component.Along.history
      (I := fun es (x : TaskExecutor κ capacity) => x.InRange ∧ ∀ i, SlotAccounted
        (component.outputs (initial : TaskExecutor κ capacity) es) i x.tasks[i]?)
      ?_ ?_ hes).2
    · exact ⟨initial_inRange, fun i => ⟨rfl, rfl⟩⟩
    · intro es e _ he h
      refine ⟨next_inRange he h.1, fun i => ?_⟩
      rw [Component.outputs_concat]
      exact slotAccounted_next he h.1 (h.2 i)
  refine ⟨?_, ?_, ?_⟩
  · intro i slot hi
    have h := haccounted i
    rw [hi] at h
    exact h
  · intro i hi
    have h := haccounted i
    rw [hi] at h
    exact h.2
  · exact Component.Along.imp (I := InRange) (fun _ _ => next_inRange)
      (fun _ _ => stepSound) initial_inRange hes

/-- A task of period 100, registered at 0, whose backlog at 450 is worked off release by
release. -/
def lateRun : List (Event Unit ℕ) :=
  [.addTask (some ()) 100 0, .runDue 450 fun _ => ⟨.ok, 200⟩, .runDue 450 fun _ => ⟨.ok, 300⟩]

theorem run_releases_backlog :
    (∀ (i : ℕ) (slot : TaskSlot Unit),
      (component.run (initial : TaskExecutor Unit 2) lateRun).tasks[i]? = some slot →
      ∃ a k, Accounted (component.outputs (initial : TaskExecutor Unit 2) lateRun) i slot
        a k) ∧
      (∀ i : ℕ, (component.run (initial : TaskExecutor Unit 2) lateRun).tasks[i]? = none →
        (component.outputs (initial : TaskExecutor Unit 2) lateRun).flatMap
          (Output.releases i) = []) ∧
      component.Along StepSound (initial : TaskExecutor Unit 2) lateRun := by
  refine run_releases _ ?_
  simp [lateRun, Event.InRange, InInt64, timePointMax, int64Max]

end TaskExecutor

end SafetyCore
