import SafetyCore.Exec.TaskExecutor.Capacity
import SafetyCore.Exec.TaskExecutor.Drift
import SafetyCore.System.SafetyCoreApp

/-!
# The exit status of the application

The loop sleeps for a control period after every round, and an oversleep is never caught up: the
heartbeat of an iteration is released one period after that of the iteration before. So `main`
succeeds as long as no iteration is behind by more than one period, all oversleeps added up.
-/

namespace SafetyCore

open Arithmetic Text

namespace TaskExecutor

variable {κ : Type} {capacity : ℕ} {x : TaskExecutor κ capacity}

/-- A registration with room for its first release. -/
theorem addTask_of_room (hx : x.InRange) (hmax : x.maxTasks ≤ capacity)
    (hfree : x.tasks.length < capacity) (fn : κ) {period now : ℤ} (hperiod : 0 < period)
    (hnow : 0 ≤ now) (hroom : now + period ≤ timePointMax) :
    ∃ slot diagnostics, x.addTask (some fn) period now =
        some ({ x with tasks := x.tasks ++ [slot] }, .ok, diagnostics) ∧
      slot.period = period ∧ slot.nextRelease = now + period ∧ slot.InRange := by
  have huse : x.usePeriod period = period := if_neg hperiod.ne'
  have hle : period ≤ timePointMax := by omega
  have hacceptable : x.Acceptable (some fn) period now := by
    refine ⟨rfl, ?_, ?_, ?_⟩
    · rwa [huse]
    · rw [huse]
      exact inInt64_of_nonneg (sub_nonneg.2 hle) (sub_le_self _ hperiod.le)
    · rw [huse]
      exact inInt64_of_nonneg (by omega) hroom
  obtain ⟨-, -, added, diagnostics, hadded⟩ | ⟨hnot, -⟩ := addTask_outcome hmax (some fn) period now
  · obtain ⟨r, d, heq, hr⟩ | ⟨slot, d, heq, hslot, hrelease, hrange⟩ :=
      addTask_cases hx (some fn) (inInt64_of_nonneg hperiod.le hle) hnow
    · rw [hadded] at heq
      have hok : Result.ok = r := congrArg (fun outcome => outcome.2.1) (Option.some.inj heq)
      rw [← hok] at hr
      cases hr
    · refine ⟨slot, d, heq, hslot.trans huse, ?_, hrange⟩
      rw [hrelease, hslot, huse]
  · exact absurd ⟨hacceptable, hfree⟩ hnot

end TaskExecutor

namespace SafetyCoreApp

open TaskExecutor

/-- The clock readings of a `main` that sleeps for `period` after every iteration and enters the
loop within a period of the registrations. -/
structure Schedule (period heartbeat monitor : ℤ) (iterations : List Iteration) : Prop where
  heartbeat_nonneg : 0 ≤ heartbeat
  registered : heartbeat ≤ monitor
  entered : ∀ t ∈ iterations.head?, monitor ≤ t.now ∧ t.now < heartbeat + period
  forward : ∀ t ∈ iterations, ∀ call, t.now ≤ t.after call
  slept : iterations.IsChain fun t t' => t.now + period ≤ t'.now
  room : ∀ t ∈ iterations, t.now + 2 * period ≤ timePointMax
  room_monitor : monitor + period * 2 ≤ timePointMax

/-- The executor where the heartbeat is due at `release`, and the monitor not before the
heartbeat of the iteration before. -/
structure Loaded (period release : ℤ) (x : TaskExecutor Task 8) : Prop where
  singleStep : x.catchUpPolicy = .singleStep
  inRange : x.InRange
  watchdog : period * 2 ≤ x.watchdogPeriod
  tasks : ∃ h m, x.tasks = [h, m] ∧ h.period = period ∧ h.nextRelease = release ∧
    m.period = period * 2 ∧ release - period ≤ m.nextRelease

/-! ## One iteration -/

section Iteration

variable {period release : ℤ} {app : App} {t : Iteration}

theorem runDue_eq_some {app' : App} {r : Result} (hrun : runDue app t = some (app', r)) :
    ∃ round, app.executor.runDue t.now (fun i => ⟨.ok, t.after i⟩) = some round ∧
      app'.executor = { app.executor with tasks := round.tasks } ∧ r = round.exit.result := by
  obtain ⟨round, hround, heq⟩ := Option.bind_eq_some_iff.1 hrun
  cases heq
  exact ⟨round, hround, rfl, rfl⟩

theorem runDue_of_round {round : Round Task}
    (hround : app.executor.runDue t.now (fun i => ⟨.ok, t.after i⟩) = some round) :
    ∃ app', runDue app t = some (app', round.exit.result) :=
  ⟨_, Option.bind_eq_some_iff.2 ⟨round, hround, rfl⟩⟩

variable (hforward : ∀ call, t.now ≤ t.after call) (hroom : t.now + 2 * period ≤ timePointMax)
include hforward hroom

/-- An iteration that succeeds is behind by a period, at most. -/
theorem Loaded.runDue (h : Loaded period release app.executor) (hready : release ≤ t.now)
    {app' : App} {r : Result} (hrun : runDue app t = some (app', r)) (hr : r.isOk = true) :
    t.now ≤ release + period ∧ Loaded period (release + period) app'.executor := by
  obtain ⟨round, hround, hexecutor, rfl⟩ := runDue_eq_some hrun
  obtain ⟨slot, m, htasks, hperiod, hrelease, hmonitor, hbehind⟩ := h.tasks
  have hpositive := slot.period_pos
  have hmax : t.now ≤ timePointMax := by omega
  have hsteps := runDue_oneStep h.singleStep hmax hforward h.inRange hround hr
  obtain ⟨round', hround', hadvances⟩ :=
    runDue_advances h.inRange hmax fun i => ⟨.ok, t.after i⟩
  cases hround.symm.trans hround'
  rw [htasks] at hsteps
  obtain ⟨slot', rest, hslot, hrest, hround₁⟩ := List.forall₂_cons_left_iff.1 hsteps
  obtain ⟨m', last, hm, hlast, rfl⟩ := List.forall₂_cons_left_iff.1 hrest
  cases hlast
  have hdue := hslot.due (hrelease.trans_le hready)
  refine ⟨by rw [← hrelease, ← hperiod]; exact hslot.now_le, ?_⟩
  rw [hexecutor]
  refine ⟨h.singleStep, hadvances.inRange h.inRange, h.watchdog, slot', m', hround₁, ?_, ?_, ?_, ?_⟩
  · rw [hdue]
    exact hperiod
  · rw [hdue, TaskSlot.advance_nextRelease, hrelease, hperiod]
    simp
  · by_cases hearly : t.now < m.nextRelease
    · rw [hm.early hearly, hmonitor]
    · rw [hm.due (not_lt.1 hearly)]
      exact hmonitor
  · by_cases hearly : t.now < m.nextRelease
    · rw [hm.early hearly]
      omega
    · rw [hm.due (not_lt.1 hearly), TaskSlot.advance_nextRelease, hmonitor]
      push_cast
      omega

/-- An iteration whose callbacks return within a period of the release succeeds. -/
theorem Loaded.runDue_ok (h : Loaded period release app.executor)
    (hpunctual : ∀ call, t.after call ≤ release + period) :
    ∃ app' r, SafetyCoreApp.runDue app t = some (app', r) ∧ r.isOk = true := by
  obtain ⟨slot, m, htasks, hperiod, hrelease, hmonitor, hbehind⟩ := h.tasks
  have hpositive := slot.period_pos
  have hnow := (hforward 0).trans (hpunctual 0)
  have hwatchdog := h.watchdog
  have htime : ∀ s ∈ app.executor.tasks, s.nextRelease ≤ t.now →
      InTime app.executor t.now (fun i => ⟨.ok, t.after i⟩) s := by
    rw [htasks]
    intro s hs hdue
    obtain rfl | rfl : s = slot ∨ s = m := by simpa using hs
    · refine ⟨by omega, by omega, fun call => ⟨rfl, ?_⟩⟩
      rw [hrelease, hperiod]
      exact hpunctual call
    · refine ⟨by omega, by omega, fun call => ⟨rfl, ?_⟩⟩
      have := hpunctual call
      dsimp only
      omega
  obtain ⟨round, hround, hexit⟩ :=
    runDue_completed h.singleStep (by omega) h.inRange htime
  obtain ⟨app', hrun⟩ := runDue_of_round hround
  exact ⟨app', _, hrun, by rw [hexit]; rfl⟩

end Iteration

/-! ## The loop -/

theorem demoLoop_cons (iteration : ℕ) {app app' : App} {t : Iteration} (ts : List Iteration)
    {r : Result} (hrun : runDue app t = some (app', r)) :
    (r.isOk = false ∧ demoLoop iteration app (t :: ts) = some (app', 1)) ∨
      r.isOk = true ∧ ∃ app'', app''.executor = app'.executor ∧
        demoLoop iteration app (t :: ts) = demoLoop (iteration + 1) app'' ts := by
  rw [demoLoop, hrun]
  simp only [Option.bind_eq_bind, Option.bind_some]
  cases hr : r.isOk with
  | false => exact .inl ⟨rfl, rfl⟩
  | true =>
      refine .inr ⟨rfl, _, ?_, rfl⟩
      split <;> rfl

/-- The iterations are behind the releases by one period, at most. -/
def Keeps (period release : ℤ) (reading : Iteration → ℤ) (ts : List Iteration) : Prop :=
  ∀ (i : ℕ) (t : Iteration), ts[i]? = some t → reading t ≤ release + (i + 1) * period

theorem keeps_cons {period release : ℤ} {reading : Iteration → ℤ} {t : Iteration}
    {ts : List Iteration} : Keeps period release reading (t :: ts) ↔
      reading t ≤ release + period ∧ Keeps period (release + period) reading ts := by
  have hshift (i : ℕ) : release + ((i + 1 : ℕ) + 1) * period =
      release + period + (i + 1) * period := by
    push_cast
    ring
  constructor
  · intro h
    refine ⟨by simpa using h 0 t rfl, fun i u hu => ?_⟩
    rw [← hshift]
    exact h (i + 1) u hu
  · rintro ⟨hhead, htail⟩ i u hu
    cases i with
    | zero =>
        cases hu
        simpa using hhead
    | succ i =>
        rw [hshift]
        exact htail i u hu

theorem Loaded.demoLoop {period : ℤ} {ts : List Iteration}
    (hforward : ∀ t ∈ ts, ∀ call, t.now ≤ t.after call)
    (hslept : ts.IsChain fun t t' => t.now + period ≤ t'.now)
    (hroom : ∀ t ∈ ts, t.now + 2 * period ≤ timePointMax) (iteration : ℕ) {app : App}
    {release : ℤ} (h : Loaded period release app.executor)
    (hready : ∀ t ∈ ts.head?, release ≤ t.now) :
    (∀ app', demoLoop iteration app ts = some (app', 0) →
        Keeps period release Iteration.now ts) ∧
      ((∀ call, Keeps period release (fun t => t.after call) ts) →
        ∃ app', demoLoop iteration app ts = some (app', 0)) := by
  induction ts generalizing iteration app release with
  | nil => exact ⟨fun _ _ => nofun, fun _ => ⟨app, rfl⟩⟩
  | cons t ts ih =>
      obtain ⟨hforward₁, hforward⟩ := List.forall_mem_cons.1 hforward
      obtain ⟨hroom₁, hroom⟩ := List.forall_mem_cons.1 hroom
      have hready₁ : release ≤ t.now := hready t rfl
      have hnext : ∀ u ∈ ts.head?, release + period ≤ u.now := by
        intro u hu
        have := (List.isChain_cons.1 hslept).1 u hu
        omega
      have ih {app₁ : App} (h₁ : Loaded period (release + period) app₁.executor) :=
        ih hforward (List.isChain_cons.1 hslept).2 hroom (iteration + 1) h₁ hnext
      constructor
      · intro app' hloop
        obtain ⟨⟨app₁, r⟩, hrun, -⟩ := Option.bind_eq_some_iff.1 hloop
        rcases demoLoop_cons iteration ts hrun with
          ⟨-, heq⟩ | ⟨hr, app₂, hexecutor, heq⟩
        · rw [heq] at hloop
          cases hloop
        · obtain ⟨hnow, hloaded⟩ := h.runDue hforward₁ hroom₁ hready₁ hrun hr
          rw [← hexecutor] at hloaded
          exact keeps_cons.2 ⟨hnow, (ih hloaded).1 app' (heq ▸ hloop)⟩
      · intro hkeeps
        obtain ⟨app₁, r, hrun, hr⟩ :=
          h.runDue_ok hforward₁ hroom₁ fun call => (keeps_cons.1 (hkeeps call)).1
        rcases demoLoop_cons iteration ts hrun with
          ⟨herror, -⟩ | ⟨-, app₂, hexecutor, heq⟩
        · rw [hr] at herror
          cases herror
        · obtain ⟨-, hloaded⟩ := h.runDue hforward₁ hroom₁ hready₁ hrun hr
          rw [← hexecutor] at hloaded
          rw [heq]
          exact (ih hloaded).2 fun call => (keeps_cons.1 (hkeeps call)).2

/-! ## The registrations and the first iteration -/

theorem register_eq {α : Type*} {cfg : SystemConfig α} {heartbeat monitor : ℤ}
    (hperiod : 0 < cfg.timing.controlPeriod)
    (hwatchdog : cfg.timing.controlPeriod * 2 ≤ cfg.timing.watchdogPeriod)
    (htasks : cfg.maxTasks ≤ 8) (hnonneg : 0 ≤ heartbeat) (hregistered : heartbeat ≤ monitor)
    (hroom : monitor + cfg.timing.controlPeriod * 2 ≤ timePointMax) :
    ∃ x, register cfg heartbeat monitor = some (x, .ok) ∧
      Loaded cfg.timing.controlPeriod (heartbeat + cfg.timing.controlPeriod) x ∧
      ∀ s ∈ x.tasks, heartbeat + cfg.timing.controlPeriod ≤ s.nextRelease := by
  have hmax : ¬ 8 < cfg.maxTasks.toNat := not_lt.2 (UInt8.le_iff_toNat_le.1 htasks)
  have hdouble : InInt64 (cfg.timing.controlPeriod * 2) :=
    inInt64_of_nonneg (by omega) (by unfold timePointMax at hroom; omega)
  let x₀ : TaskExecutor Task 8 :=
    { (.initial : TaskExecutor Task 8) with
      maxTasks := cfg.maxTasks.toNat
      defaultPeriod := cfg.timing.controlPeriod
      watchdogPeriod := cfg.timing.watchdogPeriod }
  have hx₀ : x₀.InRange := ⟨by change cfg.timing.controlPeriod ≤ _; omega, nofun⟩
  obtain ⟨slot, diagnostics, hadded, hslot, hrelease, hrange⟩ :=
    addTask_of_room hx₀ (not_lt.1 hmax) (by simp [x₀, initial]) Task.heartbeatTask hperiod
      hnonneg (by omega)
  have hx₁ : ({ x₀ with tasks := x₀.tasks ++ [slot] } : TaskExecutor Task 8).InRange :=
    ⟨hx₀.defaultPeriod_le, by simpa [x₀, initial] using hrange⟩
  have htwice : 0 < cfg.timing.controlPeriod * 2 := by omega
  obtain ⟨m, diagnostics', hadded', hm, hmrelease, hmrange⟩ :=
    addTask_of_room hx₁ (not_lt.1 hmax) (by simp [x₀, initial]) Task.localizationMonitorTask
      htwice (hnonneg.trans hregistered) hroom
  refine ⟨{ x₀ with tasks := [slot, m] }, ?_, ⟨rfl, ⟨hx₀.defaultPeriod_le, ?_⟩, hwatchdog,
    slot, m, rfl, hslot, hrelease.trans ?_, hm, ?_⟩, ?_⟩
  · rw [register, applyConfig, if_neg hmax]
    change (x₀.addTask (some .heartbeatTask) cfg.timing.controlPeriod heartbeat).bind _ = _
    rw [hadded, Option.bind_some]
    change (checked (cfg.timing.controlPeriod * 2)).bind _ = _
    rw [checked_of_inInt64 hdouble, Option.bind_some]
    exact Option.bind_eq_some_iff.2 ⟨_, hadded', rfl⟩
  · simpa using ⟨hrange, hmrange⟩
  · rfl
  · rw [hmrelease]
    omega
  · intro s hs
    obtain rfl | rfl : s = slot ∨ s = m := by simpa using hs
    · exact hrelease.ge
    · rw [hmrelease]
      omega

/-- An iteration in which nothing is due leaves the executor as it is. -/
theorem runDue_early (app : App) {t : Iteration}
    (hsingle : app.executor.catchUpPolicy = .singleStep) (hrange : app.executor.InRange)
    (hmax : t.now ≤ timePointMax) (hforward : ∀ call, t.now ≤ t.after call)
    (hearly : ∀ s ∈ app.executor.tasks, t.now < s.nextRelease) :
    ∃ app' r, runDue app t = some (app', r) ∧ r.isOk = true ∧ app'.executor = app.executor := by
  obtain ⟨round, hround, hexit⟩ : ∃ round, app.executor.runDue t.now
      (fun i => ⟨.ok, t.after i⟩) = some round ∧ round.exit = .completed :=
    runDue_completed hsingle hmax hrange fun s hs hdue => absurd (hearly s hs) (not_lt.2 hdue)
  have hok : round.exit.result.isOk = true := by
    rw [hexit]
    rfl
  have hsteps := runDue_oneStep hsingle hmax hforward hrange hround hok
  have hsame : List.Forall₂ (fun s s' => s = s') app.executor.tasks round.tasks :=
    ((List.forall₂_and_left _ _).2 ⟨hearly, hsteps⟩).imp fun _ _ h => (h.2.early h.1).symm
  rw [List.forall₂_eq_eq_eq] at hsame
  obtain ⟨app', hrun⟩ := runDue_of_round hround
  obtain ⟨round', hround', hexecutor, -⟩ := runDue_eq_some hrun
  cases hround.symm.trans hround'
  exact ⟨app', _, hrun, hok, by rw [hexecutor, ← hsame]⟩

section Main

variable {α : Type*} [Zero α] [OfScientific α] [LT α] [DecidableLT α] [LE α] [DecidableLE α]
  [DecidableEq α] [FiniteTest α]

theorem controlPeriod_pos (getenv : String → Option (List Char))
    (strtod : List Char → Conversion α) (hbuilt : (startup getenv strtod).2.1.isOk = true) :
    0 < (startup getenv strtod).1.config.timing.controlPeriod := by
  rcases buildContext_cases getenv strtod () () ⟨makeDefaults, {}⟩
      { defaults := loadFromEnv getenv strtod makeDefaults
        clock := some ()
        healthMonitor := some ()
        diagnosticTransport := some ()
        safetySupervisor := some () } with ⟨herror, -⟩ | ⟨-, -, haccepted⟩
  · exact absurd hbuilt (by rw [startup, herror]; decide)
  · exact not_le.1 haccepted.controlPeriod_pos

/-- The loop after its first iteration, in which nothing is due. -/
theorem demoLoop_schedule {period heartbeat monitor : ℤ} {iterations : List Iteration}
    (hclock : Schedule period heartbeat monitor iterations) {x : TaskExecutor Task 8}
    (hloaded : Loaded period (heartbeat + period) x)
    (hfirst : ∀ s ∈ x.tasks, heartbeat + period ≤ s.nextRelease) :
    (∀ app, demoLoop 0 { executor := x } iterations = some (app, 0) →
        Keeps period (heartbeat + period) Iteration.now iterations.tail) ∧
      ((∀ call, Keeps period (heartbeat + period) (fun t => t.after call) iterations.tail) →
        ∃ app, demoLoop 0 { executor := x } iterations = some (app, 0)) := by
  cases iterations with
  | nil => exact ⟨fun _ _ _ _ => nofun, fun _ => ⟨_, rfl⟩⟩
  | cons t ts =>
      obtain ⟨hentered, hbefore⟩ := hclock.entered t rfl
      obtain ⟨hforward₁, hforward⟩ := List.forall_mem_cons.1 hclock.forward
      obtain ⟨hroom₁, hroom⟩ := List.forall_mem_cons.1 hclock.room
      have hnonneg := hclock.heartbeat_nonneg
      have hregistered := hclock.registered
      obtain ⟨app₁, r, hrun, hr, hexecutor⟩ :=
        runDue_early { executor := x } hloaded.singleStep hloaded.inRange (by omega) hforward₁
          fun s hs => hbefore.trans_le (hfirst s hs)
      rcases demoLoop_cons 0 ts hrun with ⟨herror, -⟩ | ⟨-, app₂, hexecutor₂, heq⟩
      · rw [hr] at herror
        cases herror
      · have hsame : app₂.executor = x := hexecutor₂.trans hexecutor
        rw [← hsame] at hloaded
        rw [heq]
        refine hloaded.demoLoop hforward (List.isChain_cons.1 hclock.slept).2 hroom 1 ?_
        intro u hu
        have := (List.isChain_cons.1 hclock.slept).1 u hu
        omega

/-- The exit status is 0 if in every iteration after the first one the callbacks return within a
period of the ideal schedule, and only if every iteration starts within it. -/
theorem main_status (getenv : String → Option (List Char)) (strtod : List Char → Conversion α)
    {heartbeat monitor : ℤ} {iterations : List Iteration} :
    let built := startup getenv strtod
    let period := built.1.config.timing.controlPeriod
    built.2.1.isOk = true → built.1.config.maxTasks ≤ 8 →
    period * 2 ≤ built.1.config.timing.watchdogPeriod →
    Schedule period heartbeat monitor iterations →
    (∀ app, main getenv strtod heartbeat monitor iterations = some (app, 0) →
        Keeps period (heartbeat + period) Iteration.now iterations.tail) ∧
      ((∀ call, Keeps period (heartbeat + period) (fun t => t.after call) iterations.tail) →
        ∃ app, main getenv strtod heartbeat monitor iterations = some (app, 0)) := by
  intro built period hbuilt htasks hwatchdog hclock
  obtain ⟨x, hregister, hloaded, hfirst⟩ :=
    register_eq (controlPeriod_pos getenv strtod hbuilt) hwatchdog htasks
      hclock.heartbeat_nonneg hclock.registered hclock.room_monitor
  have hmain : main getenv strtod heartbeat monitor iterations =
      demoLoop 0 { executor := x } iterations := by
    unfold main
    dsimp only
    rw [if_neg (by simp [built, hbuilt])]
    change (register built.1.config heartbeat monitor).bind _ = _
    rw [hregister, Option.bind_some]
    rfl
  rw [hmain]
  exact demoLoop_schedule hclock hloaded hfirst

end Main

section TenIterations

theorem schedule_tenIterations : Schedule 20000000 0 500000 tenIterations where
  heartbeat_nonneg := le_rfl
  registered := by decide
  entered := by decide
  forward := by
    refine List.forall_mem_map.2 fun i _ call => ?_
    dsimp only
    omega
  slept := by decide
  room := by decide
  room_monitor := by decide

theorem main_status_tenIterations :
    ∃ app, main noEnv noDouble 0 500000 tenIterations = some (app, 0) := by
  have hperiod : (startup noEnv noDouble).1.config.timing.controlPeriod = 20000000 := by
    decide +kernel
  refine (main_status noEnv noDouble (by decide +kernel) (by decide +kernel) (by decide +kernel)
    (hperiod ▸ schedule_tenIterations)).2 ?_
  rw [hperiod]
  intro call i t ht
  have hi : i < 9 := (List.getElem?_eq_some_iff.1 ht).1
  have htail : tenIterations.tail[i]? = some
      { now := 1000000 + (i + 1 : ℕ) * 20100000
        after := fun _ => 1010000 + (i + 1 : ℕ) * 20100000 } := by
    rw [List.getElem?_tail, tenIterations, List.getElem?_map, List.getElem?_range (by omega)]
    rfl
  cases htail.symm.trans ht
  push_cast
  omega

end TenIterations

end SafetyCoreApp

end SafetyCore
