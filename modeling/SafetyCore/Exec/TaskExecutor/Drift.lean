import SafetyCore.Exec.TaskExecutor.Releases

/-!
# Lateness of a single-step executor

With `SingleStep` a slot is dispatched once in a round, at most. A round that returns `Ok` then
moves the release of every due slot by one period, and its clock reading is not later than the
deadline of the release: what a round is late by is not caught up.
-/

namespace SafetyCore

namespace TaskExecutor

variable {κ : Type} {capacity : ℕ} {x : TaskExecutor κ capacity} {now : ℤ} {respond : ℕ → Response}

/-- What a round that returns `Ok` at `now` does to a slot. -/
structure OneStep (now : ℤ) (slot slot' : TaskSlot κ) : Prop where
  early : now < slot.nextRelease → slot' = slot
  due : slot.nextRelease ≤ now → slot' = slot.advance 1
  now_le : now ≤ slot.nextRelease + slot.period

theorem OneStep.of_early {slot : TaskSlot κ} (hearly : now < slot.nextRelease) :
    OneStep now slot slot := by
  have hperiod := slot.period_pos
  exact ⟨fun _ => rfl, fun hdue => absurd hearly (not_lt.2 hdue), by omega⟩

/-- The callbacks of the slot are answered before its deadline, and the watchdog is quiet. -/
structure InTime (x : TaskExecutor κ capacity) (now : ℤ) (respond : ℕ → Response)
    (slot : TaskSlot κ) : Prop where
  lag : now - slot.nextRelease ≤ x.watchdogPeriod
  room : slot.nextRelease + slot.period ≤ timePointMax
  answered : ∀ call, (respond call).result.isOk = true ∧
    (respond call).now ≤ slot.nextRelease + slot.period

theorem runLimit_of_singleStep (hsingle : x.catchUpPolicy = .singleStep) : x.runLimit = 1 := by
  rw [runLimit, hsingle]

section SingleStep

variable (hsingle : x.catchUpPolicy = .singleStep) (hmax : now ≤ timePointMax)
include hsingle hmax

theorem runTask_oneStep (hclock : ∀ call, now ≤ (respond call).now) {calls : ℕ}
    {slot : TaskSlot κ} (hslot : slot.InRange) {run : SlotRun κ}
    (hrun : x.runTask now respond x.runLimit calls slot = some run)
    (hexit : ∀ exit ∈ run.exit, exit.result.isOk = true) :
    run.exit = none ∧ OneStep now slot run.task := by
  rw [runLimit_of_singleStep hsingle, x.runTask_succ hmax respond 0 calls slot hslot] at hrun
  split at hrun
  next hearly =>
    cases hrun
    exact ⟨rfl, .of_early hearly⟩
  next hdue =>
  split at hrun
  next =>
    cases hrun
    exact absurd (hexit _ rfl) nofun
  split at hrun
  next =>
    cases hrun
    exact absurd (hexit _ rfl) nofun
  split at hrun
  next hfailed =>
    cases hrun
    rw [Bool.not_eq_true'] at hfailed
    exact absurd (hexit _ rfl) (by simp [Exit.result, hfailed])
  split at hrun
  next =>
    cases hrun
    exact absurd (hexit _ rfl) nofun
  next hintime =>
  obtain ⟨rest, hrest, rfl⟩ := Option.map_eq_some_iff.1 hrun
  rw [runTask, if_neg (by simp [hsingle])] at hrest
  cases hrest
  exact ⟨rfl, fun hearly => absurd hearly hdue, fun _ => rfl,
    (hclock calls).trans (not_lt.1 hintime)⟩

theorem runSlots_oneStep (hclock : ∀ call, now ≤ (respond call).now) {index calls : ℕ}
    {slots : List (TaskSlot κ)} (hslots : ∀ slot ∈ slots, slot.InRange) {round : Round κ}
    (hround : x.runSlots now respond index calls slots = some round)
    (hexit : round.exit.result.isOk = true) : List.Forall₂ (OneStep now) slots round.tasks := by
  induction slots generalizing index calls round with
  | nil =>
      cases hround
      exact .nil
  | cons slot slots ih =>
      obtain ⟨hslot, hslots⟩ := List.forall_mem_cons.1 hslots
      rw [runSlots] at hround
      split at hround
      next hearly =>
        obtain ⟨rest, hrest, heq⟩ := Option.bind_eq_some_iff.1 hround
        cases heq
        exact .cons (.of_early hearly) (ih hslots hrest hexit)
      next =>
        obtain ⟨run, hrun, heq⟩ := Option.bind_eq_some_iff.1 hround
        cases hreturned : run.exit with
        | some exit =>
            simp only [hreturned] at heq
            cases heq
            have hstep := runTask_oneStep hsingle hmax hclock hslot hrun
              (by simpa [hreturned] using hexit)
            exact absurd hstep.1 (by simp [hreturned])
        | none =>
            simp only [hreturned] at heq
            obtain ⟨rest, hrest, heq'⟩ := Option.bind_eq_some_iff.1 heq
            cases heq'
            have hstep := runTask_oneStep hsingle hmax hclock hslot hrun (by simp [hreturned])
            exact .cons hstep.2 (ih hslots hrest hexit)

theorem runDue_oneStep (hclock : ∀ call, now ≤ (respond call).now) (hx : x.InRange)
    {round : Round κ} (hround : x.runDue now respond = some round)
    (hexit : round.exit.result.isOk = true) : List.Forall₂ (OneStep now) x.tasks round.tasks :=
  runSlots_oneStep hsingle hmax hclock hx.slots hround hexit

theorem runTask_completed (calls : ℕ) {slot : TaskSlot κ} (hslot : slot.InRange)
    (hdue : slot.nextRelease ≤ now) (htime : InTime x now respond slot) :
    ∃ run, x.runTask now respond x.runLimit calls slot = some run ∧ run.exit = none := by
  have hroom : ¬ timePointMax - slot.period < slot.nextRelease := by
    have := htime.room
    omega
  have hlag : ¬ (0 < x.watchdogPeriod ∧ x.watchdogPeriod < now - slot.nextRelease) :=
    fun h => absurd h.2 (not_lt.2 htime.lag)
  obtain ⟨hok, hdeadline⟩ := htime.answered calls
  rw [runLimit_of_singleStep hsingle, x.runTask_succ hmax respond 0 calls slot hslot,
    if_neg (not_lt.2 hdue), if_neg hroom, if_neg hlag, hok, Bool.not_true,
    if_neg Bool.false_ne_true, if_neg (not_lt.2 hdeadline), runTask, if_neg (by simp [hsingle])]
  exact ⟨_, rfl, rfl⟩

theorem runSlots_completed (index calls : ℕ) {slots : List (TaskSlot κ)}
    (hslots : ∀ slot ∈ slots, slot.InRange)
    (htime : ∀ slot ∈ slots, slot.nextRelease ≤ now → InTime x now respond slot) :
    ∃ round, x.runSlots now respond index calls slots = some round ∧
      round.exit = .completed := by
  induction slots generalizing index calls with
  | nil => exact ⟨_, rfl, rfl⟩
  | cons slot slots ih =>
      obtain ⟨hslot, hslots⟩ := List.forall_mem_cons.1 hslots
      obtain ⟨hintime, htime⟩ := List.forall_mem_cons.1 htime
      rw [runSlots]
      by_cases hearly : now < slot.nextRelease
      · obtain ⟨rest, hrest, hexit⟩ := ih (index + 1) calls hslots htime
        rw [if_pos hearly, hrest]
        exact ⟨_, rfl, hexit⟩
      · have hdue := not_lt.1 hearly
        obtain ⟨run, hrun, hnone⟩ :=
          runTask_completed hsingle hmax calls hslot hdue (hintime hdue)
        obtain ⟨rest, hrest, hexit⟩ :=
          ih (index + 1) (calls + run.releases.length) hslots htime
        simp only [hearly, if_false, hrun, Option.bind_eq_bind, Option.bind_some, hnone, hrest]
        exact ⟨_, rfl, hexit⟩

theorem runDue_completed (hx : x.InRange)
    (htime : ∀ slot ∈ x.tasks, slot.nextRelease ≤ now → InTime x now respond slot) :
    ∃ round, x.runDue now respond = some round ∧ round.exit = .completed :=
  runSlots_completed hsingle hmax 0 0 hx.slots htime

end SingleStep

end TaskExecutor

end SafetyCore
