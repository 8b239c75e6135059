import SafetyCore.Exec.TaskExecutor.Releases

/-!
# Bounded catch-up

Under the bounded catch-up policy a `run_due` is meant to work off a backlog of releases,
up to the configured limit. The deadline of a release is one period after it, and the
clock is compared with it after the callback; so a release that is more than one period
old has missed its deadline before it is dispatched, and the loop ends after it.
-/

namespace SafetyCore

open Arithmetic Transition

namespace TaskExecutor

variable {κ : Type} {capacity : ℕ} (x : TaskExecutor κ capacity)

/-- How many releases of the slot are due at `now`, counting at most `limit`. -/
def dueCount (now : ℤ) (limit : ℕ) (slot : TaskSlot κ) : ℕ :=
  if now < slot.nextRelease then 0
  else min limit (((now - slot.nextRelease) / slot.period).toNat + 1)

/-- After a dispatch one release less is due. -/
theorem dueCount_succ {now : ℤ} (limit : ℕ) {slot : TaskSlot κ}
    (hdue : ¬ now < slot.nextRelease) :
    dueCount now (limit + 1) slot = 1 + dueCount now limit (slot.advance 1) := by
  have hperiod := slot.period_pos
  simp only [dueCount, hdue, if_false, TaskSlot.advance_nextRelease,
    TaskSlot.advance_period, Nat.cast_one, one_mul]
  split
  case isTrue hnext =>
    have hzero : (now - slot.nextRelease) / slot.period = 0 :=
      Int.ediv_eq_zero_of_lt (by omega) (by omega)
    simp [hzero]
  case isFalse hnext =>
    have hstep : (now - slot.nextRelease) / slot.period =
        (now - (slot.nextRelease + slot.period)) / slot.period + 1 := by
      rw [← Int.add_mul_ediv_right _ _ hperiod.ne']
      congr 1
      ring
    have hnonneg : 0 ≤ (now - (slot.nextRelease + slot.period)) / slot.period :=
      Int.ediv_nonneg (by omega) hperiod.le
    rw [hstep]
    omega

@[simp] theorem dueCount_zero (now : ℤ) (slot : TaskSlot κ) : dueCount now 0 slot = 0 := by
  simp [dueCount]

theorem dueCount_of_not_due {now : ℤ} {limit : ℕ} {slot : TaskSlot κ}
    (h : now < slot.nextRelease) : dueCount now limit slot = 0 := if_pos h

/-- The slot is registered within the range of time points, the watchdog does not object
to its lag, and the deadlines of the releases that are due do not overflow. -/
structure Dispatchable (now : ℤ) (limit : ℕ) (slot : TaskSlot κ) : Prop where
  inRange : slot.InRange
  watchdog : 0 < x.watchdogPeriod → now - slot.nextRelease ≤ x.watchdogPeriod
  room : slot.nextRelease + dueCount now limit slot * slot.period ≤ timePointMax

variable {x}

/-- The deadline of a release that is dispatched does not overflow. -/
theorem Dispatchable.deadline_le {now : ℤ} {limit : ℕ} {slot : TaskSlot κ}
    (h : x.Dispatchable now (limit + 1) slot) (hdue : ¬ now < slot.nextRelease) :
    ¬ timePointMax - slot.period < slot.nextRelease := by
  have hroom := h.room
  rw [dueCount_succ limit hdue] at hroom
  have hmore : 0 ≤ (dueCount now limit (slot.advance 1) : ℤ) * slot.period :=
    mul_nonneg (Int.natCast_nonneg _) slot.period_pos.le
  push_cast at hroom
  rw [add_mul, one_mul] at hroom
  omega

/-- What is left after a dispatch can be dispatched as well. -/
theorem Dispatchable.advance_one {now : ℤ} {limit : ℕ} {slot : TaskSlot κ}
    (h : x.Dispatchable now (limit + 1) slot) (hdue : ¬ now < slot.nextRelease) :
    x.Dispatchable now limit (slot.advance 1) where
  inRange := h.inRange.advance_one (h.deadline_le hdue)
  watchdog := by
    intro hon
    have hlag := h.watchdog hon
    have hperiod := slot.period_pos
    simp only [TaskSlot.advance_nextRelease]
    omega
  room := by
    have hroom := h.room
    rw [dueCount_succ limit hdue] at hroom
    push_cast at hroom
    rw [add_mul, one_mul] at hroom
    simp only [TaskSlot.advance_nextRelease, TaskSlot.advance_period, Nat.cast_one, one_mul]
    omega

variable {now : ℤ} {respond : ℕ → Response}

/-- The first dispatch of a slot, with callbacks that return at `now` and succeed. -/
theorem runTask_succ_of_dispatchable (hmax : now ≤ timePointMax)
    (hok : ∀ call, (respond call).result.isOk = true)
    (hclock : ∀ call, (respond call).now = now) (remaining calls : ℕ) (slot : TaskSlot κ)
    (hslot : x.Dispatchable now (remaining + 1) slot) (hdue : ¬ now < slot.nextRelease) :
    x.runTask now respond (remaining + 1) calls slot =
      if slot.nextRelease + slot.period < now then
        some
          { task := slot.advance 1
            releases := [slot.nextRelease]
            diagnostics :=
              [⟨kExecutorDeadlineMiss,
                "deadline_ns=" ++ toString (slot.nextRelease + slot.period)⟩]
            exit := some .overranDeadline }
      else
        (x.runTask now respond remaining (calls + 1) (slot.advance 1)).map fun rest =>
          { rest with releases := slot.nextRelease :: rest.releases } := by
  have hwatchdog : ¬ (0 < x.watchdogPeriod ∧ x.watchdogPeriod < now - slot.nextRelease) :=
    fun h => absurd (hslot.watchdog h.1) (not_le.2 h.2)
  rw [x.runTask_succ hmax respond remaining calls slot hslot.inRange]
  simp [hdue, hslot.deadline_le hdue, hwatchdog, hok, hclock]

/-- A backlog of at most one period is worked off up to the limit. -/
theorem runTask_onTime (hmax : now ≤ timePointMax)
    (hok : ∀ call, (respond call).result.isOk = true)
    (hclock : ∀ call, (respond call).now = now) (remaining calls : ℕ) (slot : TaskSlot κ)
    (hslot : x.Dispatchable now remaining slot)
    (hlag : now - slot.nextRelease ≤ slot.period) :
    ∃ run, x.runTask now respond remaining calls slot = some run ∧
      run.task = slot.advance (dueCount now remaining slot) ∧ run.exit = none := by
  induction remaining generalizing calls slot with
  | zero =>
      unfold runTask
      split
      case isTrue hlimited =>
        have hlag : InInt64 (now - slot.nextRelease) :=
          inInt64_of_nonneg (sub_nonneg.2 hlimited.2)
            ((sub_le_self _ hslot.inRange.nonneg).trans hmax)
        simp only [checked_of_inInt64 hlag]
        exact ⟨_, rfl, by simp, rfl⟩
      case isFalse => exact ⟨_, rfl, by simp, rfl⟩
  | succ remaining ih =>
      by_cases hdue : now < slot.nextRelease
      · rw [x.runTask_succ hmax respond remaining calls slot hslot.inRange, if_pos hdue]
        exact ⟨_, rfl, by simp [dueCount_of_not_due hdue], rfl⟩
      · have hperiod := slot.period_pos
        have hdeadline : ¬ slot.nextRelease + slot.period < now := by omega
        have hnextLag : now - (slot.advance 1).nextRelease ≤ (slot.advance 1).period := by
          simp only [TaskSlot.advance_nextRelease, TaskSlot.advance_period]
          omega
        obtain ⟨rest, heq, htask, hexit⟩ :=
          ih (calls + 1) (slot.advance 1) (hslot.advance_one hdue) hnextLag
        rw [runTask_succ_of_dispatchable hmax hok hclock remaining calls slot hslot hdue,
          if_neg hdeadline, heq]
        refine ⟨_, rfl, ?_, hexit⟩
        simp only [htask, TaskSlot.advance_advance, dueCount_succ remaining hdue]

/-- A backlog of more than one period ends the loop after the first release. -/
theorem runTask_late (hmax : now ≤ timePointMax)
    (hok : ∀ call, (respond call).result.isOk = true)
    (hclock : ∀ call, (respond call).now = now) (remaining calls : ℕ) (slot : TaskSlot κ)
    (hslot : x.Dispatchable now (remaining + 1) slot)
    (hlag : slot.period < now - slot.nextRelease) :
    ∃ run, x.runTask now respond (remaining + 1) calls slot = some run ∧
      run.exit = some .overranDeadline := by
  have hperiod := slot.period_pos
  have hdue : ¬ now < slot.nextRelease := by omega
  have hdeadline : slot.nextRelease + slot.period < now := by omega
  rw [runTask_succ_of_dispatchable hmax hok hclock remaining calls slot hslot hdue,
    if_pos hdeadline]
  exact ⟨_, rfl, rfl⟩

/-! ## All slots -/

theorem runLimit_of_bounded (hpolicy : x.catchUpPolicy = .boundedCatchUp) :
    x.runLimit = x.catchUpLimit := by
  simp [runLimit, hpolicy]

theorem runSlots_onTime (hmax : now ≤ timePointMax)
    (hok : ∀ call, (respond call).result.isOk = true)
    (hclock : ∀ call, (respond call).now = now) (index calls : ℕ)
    (slots : List (TaskSlot κ)) (hslots : ∀ slot ∈ slots, x.Dispatchable now x.runLimit slot)
    (hlag : ∀ slot ∈ slots, now - slot.nextRelease ≤ slot.period) :
    ∃ round, x.runSlots now respond index calls slots = some round ∧
      round.tasks = slots.map (fun slot => slot.advance (dueCount now x.runLimit slot)) ∧
      round.exit = .completed := by
  induction slots generalizing index calls with
  | nil => exact ⟨_, rfl, rfl, rfl⟩
  | cons slot slots ih =>
      have hslot := hslots slot List.mem_cons_self
      have hrest := fun s hs => hslots s (List.mem_cons_of_mem slot hs)
      have hlagRest := fun s hs => hlag s (List.mem_cons_of_mem slot hs)
      unfold runSlots
      by_cases hdue : now < slot.nextRelease
      · obtain ⟨rest, heq, htasks, hexit⟩ := ih (index + 1) calls hrest hlagRest
        rw [if_pos hdue, heq]
        exact ⟨_, rfl, by simp [htasks, dueCount_of_not_due hdue], hexit⟩
      · obtain ⟨run, hrun, htask, hexit⟩ := runTask_onTime hmax hok hclock x.runLimit calls
          slot hslot (hlag slot List.mem_cons_self)
        obtain ⟨rest, heq, htasks, hcompleted⟩ :=
          ih (index + 1) (calls + run.releases.length) hrest hlagRest
        simp only [hdue, if_false, hrun, hexit, heq, Option.bind_eq_bind, Option.bind_some]
        exact ⟨_, rfl, by simp [htask, htasks], hcompleted⟩

/-- The first slot that is too late ends the round. -/
theorem runSlots_late (hmax : now ≤ timePointMax)
    (hok : ∀ call, (respond call).result.isOk = true)
    (hclock : ∀ call, (respond call).now = now) (index calls : ℕ) (slots : List (TaskSlot κ))
    (hslots : ∀ slot ∈ slots, x.Dispatchable now x.runLimit slot)
    (hlate : ∃ slot ∈ slots, slot.period < now - slot.nextRelease) :
    ∃ round, x.runSlots now respond index calls slots = some round ∧
      round.exit = .overranDeadline := by
  obtain ⟨remaining, hremaining⟩ := x.exists_runLimit_eq
  induction slots generalizing index calls with
  | nil => simp at hlate
  | cons slot slots ih =>
      have hslot := hslots slot List.mem_cons_self
      have hrest := fun s hs => hslots s (List.mem_cons_of_mem slot hs)
      have hperiod := slot.period_pos
      unfold runSlots
      by_cases hhead : slot.period < now - slot.nextRelease
      · rw [hremaining] at hslot
        obtain ⟨run, hrun, hexit⟩ :=
          runTask_late hmax hok hclock remaining calls slot hslot hhead
        have hdue : ¬ now < slot.nextRelease := by omega
        rw [← hremaining] at hrun
        simp only [hdue, if_false, hrun, hexit, Option.bind_eq_bind, Option.bind_some]
        exact ⟨_, rfl, rfl⟩
      · have hlateRest : ∃ s ∈ slots, s.period < now - s.nextRelease := by
          obtain ⟨s, hs, hlag⟩ := hlate
          rcases List.mem_cons.1 hs with rfl | hs
          · exact absurd hlag hhead
          · exact ⟨s, hs, hlag⟩
        by_cases hdue : now < slot.nextRelease
        · obtain ⟨rest, heq, hexit⟩ := ih (index + 1) calls hrest hlateRest
          rw [if_pos hdue, heq]
          exact ⟨_, rfl, hexit⟩
        · obtain ⟨run, hrun, -, hexit⟩ := runTask_onTime hmax hok hclock x.runLimit calls
            slot hslot (not_lt.1 hhead)
          obtain ⟨rest, heq, hlast⟩ :=
            ih (index + 1) (calls + run.releases.length) hrest hlateRest
          simp only [hdue, if_false, hrun, hexit, heq, Option.bind_eq_bind,
            Option.bind_some]
          exact ⟨_, rfl, hlast⟩

/-! ## The backlog of a run -/

/-- `run_due` returns Ok and dispatches every due slot as often as it is due, up to the
limit. -/
def CatchesUp (x : TaskExecutor κ capacity) (now : ℤ) (respond : ℕ → Response) : Prop :=
  ∃ round, x.runDue now respond = some round ∧ round.exit.result.isOk = true ∧
    ∀ (i : ℕ) (slot : TaskSlot κ), x.tasks[i]? = some slot →
      (releasesOf i round.dispatches).length = dueCount now x.catchUpLimit slot

/-- After every run, for every `now` at which the callbacks return and succeed: a
`run_due` under bounded catch-up works off the backlog of every slot exactly if no due
slot is more than one period late. -/
theorem catchesUp_iff {α : Type*} (es : List (Event κ α))
    (hes : component.Along (fun _ e => e.InRange) (initial : TaskExecutor κ capacity) es)
    (hx : component.run (initial : TaskExecutor κ capacity) es = x)
    (hpolicy : x.catchUpPolicy = .boundedCatchUp) (hmax : now ≤ timePointMax)
    (hok : ∀ call, (respond call).result.isOk = true)
    (hclock : ∀ call, (respond call).now = now)
    (hwatchdog : x.watchdogPeriod ≤ 0 ∨
      ∀ slot ∈ x.tasks, now - slot.nextRelease ≤ x.watchdogPeriod)
    (hroom : ∀ slot ∈ x.tasks,
      slot.nextRelease + dueCount now x.catchUpLimit slot * slot.period ≤ timePointMax) :
    x.CatchesUp now respond ↔
      ∀ slot ∈ x.tasks, slot.nextRelease ≤ now → now - slot.nextRelease ≤ slot.period := by
  have hrange : x.InRange := hx ▸ run_inRange hes
  have hlimit := runLimit_of_bounded hpolicy
  have hslots : ∀ slot ∈ x.tasks, x.Dispatchable now x.runLimit slot := by
    intro slot hslot
    refine ⟨hrange.slots slot hslot, fun hon => ?_, hlimit ▸ hroom slot hslot⟩
    rcases hwatchdog with hoff | hlag
    · exact absurd hon (not_lt.2 hoff)
    · exact hlag slot hslot
  by_cases hlag : ∀ slot ∈ x.tasks, now - slot.nextRelease ≤ slot.period
  · refine iff_of_true ?_ fun slot hslot _ => hlag slot hslot
    obtain ⟨round, heq, htasks, hexit⟩ :=
      runSlots_onTime hmax hok hclock 0 0 x.tasks hslots hlag
    obtain ⟨round', heq', hround⟩ := runDue_advances hrange hmax respond
    obtain rfl : round = round' := Option.some.inj (heq.symm.trans heq')
    refine ⟨round, heq, by rw [hexit]; rfl, fun i slot hi => ?_⟩
    obtain ⟨k, htask, -, hreleases⟩ := hround.slot i slot hi
    have hk : slot.advance (dueCount now x.runLimit slot) = slot.advance k := by
      simpa [htasks, hi] using htask
    rw [Nat.zero_add] at hreleases
    rw [hreleases, ← slot.advance_injective hk, hlimit]
    simp [TaskSlot.releases]
  · refine iff_of_false ?_ fun h => hlag fun slot hslot => ?_
    · push Not at hlag
      obtain ⟨round, heq, hexit⟩ := runSlots_late hmax hok hclock 0 0 x.tasks hslots hlag
      rintro ⟨round', heq', hresult, -⟩
      obtain rfl : round = round' := Option.some.inj (heq.symm.trans heq')
      rw [hexit] at hresult
      exact absurd hresult (by decide)
    · rcases le_or_gt slot.nextRelease now with hdue | hearly
      · exact h slot hslot hdue
      · have := slot.period_pos
        omega

/-- A task of period 100 is registered at 0, with a limit of two releases. -/
def boundedTask : List (Event Unit ℕ) :=
  [.setCatchUpPolicy .boundedCatchUp 2, .addTask (some ()) 100 0]

theorem boundedTask_inRange :
    component.Along (fun _ e => e.InRange) (initial : TaskExecutor Unit 2) boundedTask := by
  simp [boundedTask, Event.InRange, InInt64, timePointMax, int64Max]

theorem boundedTask_tasks :
    (component.run (initial : TaskExecutor Unit 2) boundedTask).tasks =
      [⟨100, 100, (), by decide⟩] := rfl

/-- Half a period late, `run_due` works off the backlog. -/
theorem catchesUp_iff_halfPeriod :
    CatchesUp (component.run (initial : TaskExecutor Unit 2) boundedTask) 150
      (fun _ => ⟨.ok, 150⟩) ↔
      ∀ slot ∈ (component.run (initial : TaskExecutor Unit 2) boundedTask).tasks,
        slot.nextRelease ≤ 150 → 150 - slot.nextRelease ≤ slot.period := by
  refine catchesUp_iff boundedTask boundedTask_inRange rfl rfl ?_ (fun _ => rfl)
    (fun _ => rfl) (.inl le_rfl) ?_
  · norm_num [timePointMax, int64Max]
  · rw [boundedTask_tasks]
    simp only [List.forall_mem_singleton]
    decide

/-- Three and a half periods late, `run_due` returns after the first release. -/
theorem not_catchesUp_of_backlog :
    ¬ ∀ (es : List (Event Unit ℕ)) (x : TaskExecutor Unit 2) (now : ℤ)
      (respond : ℕ → Response),
      component.Along (fun _ e => e.InRange) (initial : TaskExecutor Unit 2) es →
      component.run (initial : TaskExecutor Unit 2) es = x →
      x.catchUpPolicy = .boundedCatchUp → now ≤ timePointMax →
      (∀ call, (respond call).result.isOk = true) → (∀ call, (respond call).now = now) →
      (x.watchdogPeriod ≤ 0 ∨
        ∀ slot ∈ x.tasks, now - slot.nextRelease ≤ x.watchdogPeriod) →
      (∀ slot ∈ x.tasks,
        slot.nextRelease + dueCount now x.catchUpLimit slot * slot.period ≤ timePointMax) →
      x.CatchesUp now respond := by
  intro h
  have hroom : ∀ slot ∈ (component.run (initial : TaskExecutor Unit 2) boundedTask).tasks,
      slot.nextRelease + dueCount 450 2 slot * slot.period ≤ timePointMax := by
    rw [boundedTask_tasks]
    simp only [List.forall_mem_singleton]
    decide
  obtain ⟨round, heq, hresult, -⟩ := h boundedTask _ 450 (fun _ => ⟨.ok, 450⟩)
    boundedTask_inRange rfl rfl (by norm_num [timePointMax, int64Max]) (fun _ => rfl)
    (fun _ => rfl) (.inl le_rfl) hroom
  have hexit : ((component.run (initial : TaskExecutor Unit 2) boundedTask).runDue 450
      fun _ => ⟨.ok, 450⟩).map (·.exit) = some .overranDeadline := by
    decide
  rw [heq, Option.map_some, Option.some.injEq] at hexit
  rw [hexit] at hresult
  exact absurd hresult (by decide)

end TaskExecutor

end SafetyCore
