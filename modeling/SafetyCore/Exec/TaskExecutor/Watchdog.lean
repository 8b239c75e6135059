import Mathlib.Algebra.Order.BigOperators.Group.Finset
import Mathlib.Data.Set.Finite.Lemmas
import SafetyCore.Exec.TaskExecutor.Releases

/-!
# After a watchdog miss

`run_due` returns when the watchdog objects to the lag of a release, and leaves the release
and the slots after it as they are. Time goes on, so the lag only grows: the slot is stuck,
and neither it nor a later slot is dispatched any more. A late deadline and a failed callback
advance the release before `run_due` returns, so they hold the later slots up only for a
while.
-/

namespace SafetyCore

open Arithmetic Transition

namespace TaskExecutor

variable {κ : Type} {capacity : ℕ} {x : TaskExecutor κ capacity} {now : ℤ}
  {respond : ℕ → Response}

/-- Beyond the watchdog window no callback is called, and `run_due` returns. -/
theorem runTask_stuck (hmax : now ≤ timePointMax) (respond : ℕ → Response)
    (remaining calls : ℕ) {slot : TaskSlot κ} (hslot : slot.InRange)
    (hon : 0 < x.watchdogPeriod) (hstuck : x.watchdogPeriod < now - slot.nextRelease) :
    ∃ run exit, x.runTask now respond (remaining + 1) calls slot = some run ∧
      run.releases = [] ∧ run.exit = some exit := by
  have hdue : ¬ now < slot.nextRelease := by omega
  rw [x.runTask_succ hmax respond remaining calls slot hslot, if_neg hdue]
  split
  · exact ⟨_, _, rfl, rfl, rfl⟩
  · rw [if_pos ⟨hon, hstuck⟩]
    exact ⟨_, _, rfl, rfl, rfl⟩

/-- A release that is due and within the watchdog window is dispatched. -/
theorem runTask_releases_ne_nil (hmax : now ≤ timePointMax) (respond : ℕ → Response)
    (remaining calls : ℕ) {slot : TaskSlot κ} (hslot : slot.InRange)
    (hdue : slot.nextRelease ≤ now) (hlag : now - slot.nextRelease ≤ x.watchdogPeriod)
    (hroom : slot.nextRelease + slot.period ≤ timePointMax) {run : SlotRun κ}
    (hrun : x.runTask now respond (remaining + 1) calls slot = some run) :
    run.releases ≠ [] := by
  have hdeadline : ¬ timePointMax - slot.period < slot.nextRelease := by omega
  have hwatchdog : ¬ (0 < x.watchdogPeriod ∧ x.watchdogPeriod < now - slot.nextRelease) :=
    fun h => absurd hlag (not_le.2 h.2)
  rw [x.runTask_succ hmax respond remaining calls slot hslot, if_neg (not_lt.2 hdue),
    if_neg hdeadline, if_neg hwatchdog] at hrun
  split at hrun
  · cases hrun
    exact List.cons_ne_nil _ _
  split at hrun
  · cases hrun
    exact List.cons_ne_nil _ _
  · obtain ⟨rest, -, rfl⟩ := Option.map_eq_some_iff.1 hrun
    exact List.cons_ne_nil _ _

/-! ## One call -/

/-- What a round calls: nothing for a slot that is not due, and otherwise the releases of the
slot, after which the round goes on with the other slots or ends. -/
theorem runSlots_cons_dispatches {index calls : ℕ} {slot : TaskSlot κ}
    {slots : List (TaskSlot κ)} {round : Round κ}
    (hround : x.runSlots now respond index calls (slot :: slots) = some round) :
    (now < slot.nextRelease ∧ ∃ rest,
        x.runSlots now respond (index + 1) calls slots = some rest ∧
          round.dispatches = rest.dispatches) ∨
      slot.nextRelease ≤ now ∧ ∃ run, x.runTask now respond x.runLimit calls slot = some run ∧
        (run.exit ≠ none ∧ round.dispatches = run.releases.map (Dispatch.mk index) ∨
          run.exit = none ∧ ∃ calls' rest,
            x.runSlots now respond (index + 1) calls' slots = some rest ∧
              round.dispatches = run.releases.map (Dispatch.mk index) ++ rest.dispatches) := by
  rw [runSlots] at hround
  split at hround
  next hearly =>
    obtain ⟨rest, hrest, heq⟩ := Option.bind_eq_some_iff.1 hround
    cases heq
    exact .inl ⟨hearly, rest, hrest, rfl⟩
  next hdue =>
    obtain ⟨run, hrun, heq⟩ := Option.bind_eq_some_iff.1 hround
    refine .inr ⟨not_lt.1 hdue, run, hrun, ?_⟩
    cases hexit : run.exit with
    | some exit =>
        simp only [hexit] at heq
        cases heq
        exact .inl ⟨nofun, rfl⟩
    | none =>
        simp only [hexit] at heq
        obtain ⟨rest, hrest, heq'⟩ := Option.bind_eq_some_iff.1 heq
        cases heq'
        exact .inr ⟨rfl, _, rest, hrest, rfl⟩

/-- A stuck slot ends the round before it or a later slot is dispatched. -/
theorem runSlots_stuck (hmax : now ≤ timePointMax) (hon : 0 < x.watchdogPeriod)
    {index calls : ℕ} {slots : List (TaskSlot κ)} (hslots : ∀ slot ∈ slots, slot.InRange)
    {j : ℕ} {slot : TaskSlot κ} (hj : slots[j]? = some slot)
    (hstuck : x.watchdogPeriod < now - slot.nextRelease) {round : Round κ}
    (hround : x.runSlots now respond index calls slots = some round) :
    ∀ d ∈ round.dispatches, d.slot < index + j := by
  induction slots generalizing index calls j round with
  | nil => cases hj
  | cons head slots ih =>
      have hhead := hslots head List.mem_cons_self
      have hrest := fun s hs => hslots s (List.mem_cons_of_mem head hs)
      rcases runSlots_cons_dispatches hround with
        ⟨hearly, rest, hrun, hdispatches⟩ | ⟨hdue, run, hrun, hcases⟩
      · rw [hdispatches]
        cases j with
        | zero =>
            cases hj
            omega
        | succ j =>
            have hlater := ih hrest hj hrun
            intro d hd
            have := hlater d hd
            omega
      · cases j with
        | zero =>
            -- the head itself is stuck
            cases hj
            obtain ⟨remaining, hremaining⟩ := x.exists_runLimit_eq
            obtain ⟨run', exit, hrun', hreleases, hexit⟩ :=
              runTask_stuck hmax respond remaining calls hhead hon hstuck
            rw [hremaining] at hrun
            obtain rfl : run' = run := Option.some.inj (hrun'.symm.trans hrun)
            rcases hcases with ⟨-, hdispatches⟩ | ⟨hnone, -⟩
            · rw [hdispatches, hreleases]
              exact nofun
            · rw [hexit] at hnone
              cases hnone
        | succ j =>
            have hfirst : ∀ d ∈ run.releases.map (Dispatch.mk index),
                d.slot < index + (j + 1) := by
              intro d hd
              obtain ⟨release, -, rfl⟩ := List.mem_map.1 hd
              exact Nat.lt_add_of_pos_right j.succ_pos
            rcases hcases with ⟨-, hdispatches⟩ | ⟨-, calls', rest, hrun', hdispatches⟩
            · rw [hdispatches]
              exact hfirst
            · have hlater := ih hrest hj hrun'
              rw [hdispatches]
              intro d hd
              rcases List.mem_append.1 hd with hd | hd
              · exact hfirst d hd
              · have := hlater d hd
                omega

/-- Where every slot up to a due one is within the watchdog window, one of them is
dispatched: the first that is due. -/
theorem runSlots_dispatches (hmax : now ≤ timePointMax) {index calls : ℕ}
    {slots : List (TaskSlot κ)} (hslots : ∀ slot ∈ slots, slot.InRange) {j : ℕ}
    {slot : TaskSlot κ} (hj : slots[j]? = some slot) (hdue : slot.nextRelease ≤ now)
    (hlag : ∀ i ≤ j, ∀ s ∈ slots[i]?, now - s.nextRelease ≤ x.watchdogPeriod)
    (hroom : ∀ i ≤ j, ∀ s ∈ slots[i]?, s.nextRelease ≤ now →
      s.nextRelease + s.period ≤ timePointMax) {round : Round κ}
    (hround : x.runSlots now respond index calls slots = some round) :
    ∃ i ≤ j, releasesOf (index + i) round.dispatches ≠ [] := by
  induction slots generalizing index calls j round with
  | nil => cases hj
  | cons head slots ih =>
      have hhead := hslots head List.mem_cons_self
      have hrest := fun s hs => hslots s (List.mem_cons_of_mem head hs)
      rcases runSlots_cons_dispatches hround with
        ⟨hearly, rest, hrun, hdispatches⟩ | ⟨hnow, run, hrun, hcases⟩
      · cases j with
        | zero =>
            cases hj
            omega
        | succ j =>
            obtain ⟨i, hi, hfound⟩ := ih hrest hj
              (fun i hi => hlag (i + 1) (Nat.succ_le_succ hi))
              (fun i hi => hroom (i + 1) (Nat.succ_le_succ hi)) hrun
            refine ⟨i + 1, Nat.succ_le_succ hi, ?_⟩
            rw [hdispatches, ← Nat.add_assoc, Nat.add_right_comm]
            exact hfound
      · obtain ⟨remaining, hremaining⟩ := x.exists_runLimit_eq
        rw [hremaining] at hrun
        have hreleases := runTask_releases_ne_nil hmax respond remaining calls hhead hnow
          (hlag 0 (Nat.zero_le j) head rfl) (hroom 0 (Nat.zero_le j) head rfl hnow) hrun
        refine ⟨0, Nat.zero_le j, ?_⟩
        rw [Nat.add_zero]
        rcases hcases with ⟨-, hdispatches⟩ | ⟨-, calls', rest, -, hdispatches⟩
        · rw [hdispatches, releasesOf_self]
          exact hreleases
        · rw [hdispatches, releasesOf_append, releasesOf_self]
          exact List.append_ne_nil_of_left_ne_nil hreleases _

/-! ## Sequences of calls -/

/-- Calls of `run_due` at the given times, with callbacks that return Ok and take no time. -/
def promptCalls (κ : Type) (α : Type*) (times : List ℤ) : List (Event κ α) :=
  times.map fun now => .runDue now fun _ => ⟨.ok, now⟩

/-- Some calls from the time `t` on dispatch the slot numbered `k`. -/
def DispatchedAgain (α : Type*) (x : TaskExecutor κ capacity) (t : ℤ) (k : ℕ) : Prop :=
  ∃ times : List ℤ, (t :: times).IsChain (· ≤ ·) ∧ (∀ now ∈ times, now ≤ timePointMax) ∧
    (component.outputs x (promptCalls κ α times)).flatMap (Output.releases k) ≠ []

/-- A call of `run_due`, as a step of the executor. -/
theorem runDue_step {α : Type*} (hx : x.InRange) (hmax : now ≤ timePointMax)
    (respond : ℕ → Response) :
    ∃ round, Round.Advances x now 0 x.tasks round ∧ x.runDue now respond = some round ∧
      component.next x (.runDue now respond : Event κ α) = { x with tasks := round.tasks } ∧
      ∀ k, (component.output x (.runDue now respond : Event κ α)).releases k =
        releasesOf k round.dispatches := by
  obtain ⟨round, heq, hround⟩ := runDue_advances hx hmax respond
  refine ⟨round, hround, heq, ?_, fun k => ?_⟩
  · simp only [component, heq]
  · simp only [component, heq]
    rfl

/-! ### A stuck slot -/

/-- Once a slot lags behind by more than the watchdog period, neither it nor a later slot is
dispatched again. -/
theorem outputs_stuck {α : Type*} (hx : x.InRange) (hon : 0 < x.watchdogPeriod) {j k : ℕ}
    (hjk : j ≤ k) {slot : TaskSlot κ} (hj : x.tasks[j]? = some slot) {t : ℤ}
    (hstuck : x.watchdogPeriod < t - slot.nextRelease) {times : List ℤ}
    (hchain : (t :: times).IsChain (· ≤ ·)) (hmax : ∀ now ∈ times, now ≤ timePointMax) :
    (component.outputs x (promptCalls κ α times)).flatMap (Output.releases k) = [] := by
  induction times generalizing x t with
  | nil => rfl
  | cons now times ih =>
      have hnow := hmax now List.mem_cons_self
      have hlater : t ≤ now := (List.isChain_cons_cons.1 hchain).1
      have hlag : x.watchdogPeriod < now - slot.nextRelease := by omega
      obtain ⟨round, hround, heq, hnext, hreleases⟩ :=
        runDue_step (α := α) hx hnow fun _ => ⟨.ok, now⟩
      have hdispatch := runSlots_stuck hnow hon hx.slots hj hlag heq
      have hnone : ∀ i, j ≤ i → releasesOf i round.dispatches = [] := fun i hi =>
        releasesOf_eq_nil fun d hd => by
          have := hdispatch d hd
          omega
      -- the slot keeps its release
      have hkept : round.tasks[j]? = some slot := by
        obtain ⟨m, htask, -, hm⟩ := hround.slot j slot hj
        rw [Nat.zero_add, hnone j le_rfl] at hm
        rw [htask, (slot.releases_eq_nil_iff).1 hm.symm, TaskSlot.advance_zero]
      rw [promptCalls, List.map_cons, Component.outputs_cons, List.flatMap_cons, hreleases,
        hnone k hjk, hnext, List.nil_append]
      exact ih (hround.inRange hx) hon hkept hlag (List.isChain_cons_cons.1 hchain).2
        fun now' hmem => hmax now' (List.mem_cons_of_mem now hmem)

/-! ### Working off the backlog -/

/-- Up to the slot numbered `k` the lags are within the watchdog window at `t`, and no
deadline of a release up to the horizon overflows. -/
structure WithinWindow (x : TaskExecutor κ capacity) (t horizon : ℤ) (k : ℕ) : Prop where
  inRange : x.InRange
  lag : ∀ j ≤ k, ∀ slot ∈ x.tasks[j]?, t - slot.nextRelease ≤ x.watchdogPeriod
  room : ∀ j ≤ k, ∀ slot ∈ x.tasks[j]?, horizon + slot.period ≤ timePointMax

/-- How far the releases up to the slot numbered `k` are behind the horizon, all in all. -/
def backlog (horizon : ℤ) (k : ℕ) (x : TaskExecutor κ capacity) : ℕ :=
  ∑ j ∈ Finset.range (k + 1),
    x.tasks[j]?.elim 0 fun slot => (horizon + 1 - slot.nextRelease).toNat

/-- A slot that a round dispatches was due, and its release moves on. -/
theorem Round.Advances.dispatched {round : Round κ}
    (hround : Round.Advances x now 0 x.tasks round) {i : ℕ}
    (hfound : releasesOf i round.dispatches ≠ []) :
    ∃ slot m, x.tasks[i]? = some slot ∧ round.tasks[i]? = some (slot.advance (m + 1)) ∧
      slot.nextRelease ≤ now := by
  cases hi : x.tasks[i]? with
  | none =>
      have hlength : x.tasks.length ≤ i := List.getElem?_eq_none_iff.1 hi
      refine absurd (releasesOf_eq_nil fun d hd => ?_) hfound
      have := (hround.dispatch d hd).2.1
      omega
  | some slot =>
      obtain ⟨k, htask, -, hreleases⟩ := hround.slot i slot hi
      rw [Nat.zero_add] at hreleases
      cases k with
      | zero => exact absurd hreleases hfound
      | succ m =>
          refine ⟨slot, m, rfl, htask, ?_⟩
          have hfirst : slot.nextRelease ∈ releasesOf i round.dispatches := by
            rw [hreleases, Nat.add_comm, TaskSlot.releases_one_add]
            exact List.mem_cons_self
          obtain ⟨d, hd, hrelease⟩ := List.mem_map.1 hfirst
          rw [← hrelease]
          exact (hround.dispatch d (List.mem_of_mem_filter hd)).2.2.1

/-- A round that dispatches one of the slots makes the backlog smaller. -/
theorem backlog_lt {horizon : ℤ} (hnow : now ≤ horizon) {round : Round κ}
    (hround : Round.Advances x now 0 x.tasks round) {i k : ℕ} (hik : i ≤ k)
    (hfound : releasesOf i round.dispatches ≠ []) :
    backlog horizon k ({ x with tasks := round.tasks } : TaskExecutor κ capacity) <
      backlog horizon k x := by
  refine Finset.sum_lt_sum (fun j _ => ?_) ⟨i, Finset.mem_range_succ_iff.2 hik, ?_⟩
  · cases hj : x.tasks[j]? with
    | none =>
        have hlength : x.tasks.length ≤ j := List.getElem?_eq_none_iff.1 hj
        have hnone : round.tasks[j]? = none :=
          List.getElem?_eq_none (hround.length ▸ hlength)
        simp [hnone]
    | some slot =>
        obtain ⟨m, htask, -, -⟩ := hround.slot j slot hj
        have := slot.add_le_advance_nextRelease m
        simp only [htask, Option.elim_some]
        omega
  · obtain ⟨slot, m, hi, htask, hdue⟩ := hround.dispatched hfound
    have := slot.add_le_advance_nextRelease (m + 1)
    simp only [hi, htask, Option.elim_some]
    omega

/-- The lags stay within the window. -/
theorem WithinWindow.next {t horizon : ℤ} {k : ℕ} (h : x.WithinWindow t horizon k)
    {round : Round κ} (hround : Round.Advances x now 0 x.tasks round) :
    ({ x with tasks := round.tasks } : TaskExecutor κ capacity).WithinWindow t horizon k := by
  have hslot : ∀ j : ℕ, ∀ s ∈ round.tasks[j]?, ∃ (slot : TaskSlot κ) (m : ℕ),
      x.tasks[j]? = some slot ∧ s = slot.advance m := by
    intro j s hs
    have hlength : j < x.tasks.length := by
      rw [← hround.length]
      exact (List.getElem?_eq_some_iff.1 hs).1
    obtain ⟨m, htask, -, -⟩ := hround.slot j x.tasks[j] (List.getElem?_eq_getElem hlength)
    rw [hs] at htask
    exact ⟨x.tasks[j], m, List.getElem?_eq_getElem hlength, Option.some.inj htask⟩
  refine ⟨hround.inRange h.inRange, fun j hj s hs => ?_, fun j hj s hs => ?_⟩
  · obtain ⟨slot, m, hslot, rfl⟩ := hslot j s hs
    have hlag := h.lag j hj slot hslot
    have := slot.add_le_advance_nextRelease m
    dsimp only
    omega
  · obtain ⟨slot, m, hslot, rfl⟩ := hslot j s hs
    exact h.room j hj slot hslot

/-- At `t`, or at the next release after it, a slot is due and the lags are still within the
window. -/
theorem WithinWindow.exists_due {t horizon : ℤ} {k : ℕ} (h : x.WithinWindow t horizon k)
    (hon : 0 < x.watchdogPeriod) (ht : t ≤ horizon) {slot : TaskSlot κ}
    (hk : x.tasks[k]? = some slot) (hle : slot.nextRelease ≤ horizon) :
    ∃ now, t ≤ now ∧ now ≤ horizon ∧ x.WithinWindow now horizon k ∧
      ∃ j ≤ k, ∃ due, x.tasks[j]? = some due ∧ due.nextRelease ≤ now := by
  by_cases hdue : ∃ j ≤ k, ∃ due, x.tasks[j]? = some due ∧ due.nextRelease ≤ t
  · exact ⟨t, le_rfl, ht, h, hdue⟩
  · -- nothing is due before the least release
    have hfinite : {s | ∃ j ≤ k, x.tasks[j]? = some s}.Finite := by
      refine (List.finite_toSet x.tasks).subset ?_
      rintro s ⟨j, -, hj⟩
      exact List.mem_of_getElem? hj
    obtain ⟨first, ⟨j, hj, hfirst⟩, hmin⟩ := Set.exists_min_image _ TaskSlot.nextRelease
      hfinite ⟨slot, k, le_rfl, hk⟩
    have hafter : t < first.nextRelease := by
      by_contra hnot
      exact hdue ⟨j, hj, first, hfirst, not_lt.1 hnot⟩
    refine ⟨first.nextRelease, hafter.le, (hmin slot ⟨k, le_rfl, hk⟩).trans hle,
      ⟨h.inRange, fun i hi s hs => ?_, h.room⟩, j, hj, first, hfirst, le_rfl⟩
    have hleast := hmin s ⟨i, hi, hs⟩
    omega

/-- Within the window the calls reach every slot: each of them makes the backlog smaller. -/
theorem WithinWindow.dispatchedAgain {α : Type*} {t horizon : ℤ} {k : ℕ}
    (h : x.WithinWindow t horizon k) (hon : 0 < x.watchdogPeriod) (ht : t ≤ horizon)
    {slot : TaskSlot κ} (hk : x.tasks[k]? = some slot) (hle : slot.nextRelease ≤ horizon) :
    x.DispatchedAgain α t k := by
  induction hn : backlog horizon k x using Nat.strong_induction_on generalizing x t with
  | _ n ih =>
      obtain ⟨now, hlater, hnow, hwindow, j, hj, due, hdueSlot, hdue⟩ :=
        h.exists_due hon ht hk hle
      have hmax : now ≤ timePointMax := by
        have := hwindow.room k le_rfl slot hk
        have := slot.period_pos
        omega
      obtain ⟨round, hround, heq, hnext, hreleases⟩ :=
        runDue_step (α := α) hwindow.inRange hmax fun _ => ⟨.ok, now⟩
      obtain ⟨i, hi, hfound⟩ := runSlots_dispatches hmax hwindow.inRange.slots hdueSlot hdue
        (fun m hm => hwindow.lag m (hm.trans hj))
        (fun m hm s hs _ => by
          have := hwindow.room m (hm.trans hj) s hs
          omega) heq
      rw [Nat.zero_add] at hfound
      by_cases hdispatched : releasesOf k round.dispatches = []
      · -- the slot keeps its release, and the others are closer to the horizon
        have hkept : round.tasks[k]? = some slot := by
          obtain ⟨m, htask, -, hm⟩ := hround.slot k slot hk
          rw [Nat.zero_add, hdispatched] at hm
          rw [htask, slot.releases_eq_nil_iff.1 hm.symm, TaskSlot.advance_zero]
        obtain ⟨times, hchain, htimes, hagain⟩ := ih _
          (hn ▸ backlog_lt hnow hround (hi.trans hj) hfound) (hwindow.next hround) hon hnow
          hkept rfl
        refine ⟨now :: times, List.isChain_cons_cons.2 ⟨hlater, hchain⟩, ?_, ?_⟩
        · exact List.forall_mem_cons.2 ⟨hmax, htimes⟩
        · rw [promptCalls, List.map_cons, Component.outputs_cons, List.flatMap_cons, hnext]
          exact List.append_ne_nil_of_right_ne_nil _ hagain
      · refine ⟨[now], List.isChain_cons_cons.2 ⟨hlater, List.isChain_singleton now⟩, ?_, ?_⟩
        · exact List.forall_mem_singleton.2 hmax
        · rw [promptCalls, List.map_cons, List.map_nil, Component.outputs_cons,
            List.flatMap_cons, hreleases]
          exact List.append_ne_nil_of_left_ne_nil hdispatched _

/-- After every run, with a watchdog and with time points that leave room for the deadlines:
some calls from `t` on dispatch a task again exactly if neither its slot nor one before it
lags behind `t` by more than the watchdog period. -/
theorem dispatchedAgain_iff {α : Type*} {es : List (Event κ α)}
    (hes : component.Along (fun _ e => e.InRange) (initial : TaskExecutor κ capacity) es)
    (hx : component.run (initial : TaskExecutor κ capacity) es = x)
    (hon : 0 < x.watchdogPeriod) {k : ℕ} {slot : TaskSlot κ} (hk : x.tasks[k]? = some slot)
    {t : ℤ} (hroom : ∀ s ∈ x.tasks, max t slot.nextRelease + s.period ≤ timePointMax) :
    x.DispatchedAgain α t k ↔
      ∀ j ≤ k, ∀ s ∈ x.tasks[j]?, t - s.nextRelease ≤ x.watchdogPeriod := by
  have hrange : x.InRange := hx ▸ run_inRange hes
  constructor
  · rintro ⟨times, hchain, htimes, hagain⟩ j hj s hs
    by_contra hstuck
    exact hagain (outputs_stuck hrange hon hj hs (not_le.1 hstuck) hchain htimes)
  · intro hlag
    have hwindow : x.WithinWindow t (max t slot.nextRelease) k :=
      ⟨hrange, hlag, fun j _ s hs => hroom s (List.mem_of_getElem? hs)⟩
    exact hwindow.dispatchedAgain hon (le_max_left _ _) hk (le_max_right _ _)

/-- The configuration of the controller's tests, and a task with its control period of
100 ms, registered at 0. -/
def watchedTask : List (Event Unit ℚ) := [.applyConfig makeConfig, .addTask (some ()) 0 0]

theorem watchedTask_inRange :
    component.Along (fun _ e => e.InRange) (initial : TaskExecutor Unit 4) watchedTask := by
  simp [watchedTask, makeConfig, Event.InRange, InInt64, timePointMax, int64Max]

theorem watchedTask_tasks :
    (component.run (initial : TaskExecutor Unit 4) watchedTask).tasks =
      [⟨100000000, 100000000, (), by decide⟩] := rfl

/-- At 200 ms the task is late by 100 ms, within the watchdog period of 150 ms. -/
theorem dispatchedAgain_within :
    (component.run (initial : TaskExecutor Unit 4) watchedTask).DispatchedAgain ℚ 200000000
      0 := by
  refine (dispatchedAgain_iff watchedTask_inRange rfl (by decide) rfl ?_).2 ?_
  · rw [watchedTask_tasks, List.forall_mem_singleton]
    decide
  · rintro j hj s hs
    obtain rfl : j = 0 := Nat.le_zero.1 hj
    cases hs
    decide

/-- At 300 ms the task is late by 200 ms, and no calls dispatch it again. -/
theorem not_dispatchedAgain_beyond :
    component.Along (fun _ e => e.InRange) (initial : TaskExecutor Unit 4) watchedTask ∧
      (component.run (initial : TaskExecutor Unit 4) watchedTask).watchdogPeriod =
        150000000 ∧
      (component.run (initial : TaskExecutor Unit 4) watchedTask).tasks =
        [⟨100000000, 100000000, (), by decide⟩] ∧
      ¬ (component.run (initial : TaskExecutor Unit 4) watchedTask).DispatchedAgain ℚ
        300000000 0 := by
  refine ⟨watchedTask_inRange, rfl, watchedTask_tasks, ?_⟩
  rintro ⟨times, hchain, htimes, hagain⟩
  exact hagain (outputs_stuck (run_inRange watchedTask_inRange) (by decide) le_rfl rfl
    (by decide) hchain htimes)

end TaskExecutor

end SafetyCore
