import SafetyCore.Exec.TaskExecutor
import SafetyCore.Safety.Supervisor.Escalation
import SafetyCore.System.ContextFactory

/-!
# The application

`main` of `safety_core_app` builds the context from the environment, registers a heartbeat and a
localization monitor with the executor, and runs the executor once in every iteration of a loop that
sleeps for a control period. The loop of the source has ten iterations; here their number is that of
the clock readings. The pointers of the context are not told apart, and what is printed is left out.
-/

namespace SafetyCore

open Arithmetic Text

namespace SafetyCoreApp

def makeDefaults {α : Type*} [OfScientific α] : SystemConfig α where
  timing :=
    { controlPeriod := 20000000
      watchdogPeriod := 40000000
      localizationTimeout := 2000000000 }
  envelope :=
    { maxSpeedMps := 1.5
      maxAccelMps2 := 0.75
      maxComfortDecelMps2 := 0.8
      controlLatencyS := 0.1
      safetyBufferM := 0.2 }
  maxTasks := 4

/-- The two callbacks with their contexts. -/
inductive Task
  | heartbeatTask
  | localizationMonitorTask
  deriving DecidableEq, Repr

/-- What `main` holds besides the configuration: the executor, the supervisor with the state
machine, and the contexts of the callbacks. -/
structure App where
  executor : TaskExecutor Task 8 := .initial
  supervised : SafetySupervisor.Wired := { machine := {} }
  cycles : ℕ := 0
  localizationAgeNs : UInt64 := 0

def heartbeatTask (app : App) : App × Result :=
  ({ app with cycles := app.cycles + 1 }, .ok)

/-- The result of the observation is only printed. -/
def localizationMonitorTask (app : App) : App × Result :=
  let age := app.localizationAgeNs + 10000000
  ({ app with
      supervised := (app.supervised.call (.observeLocalizationAge age 80000000)).1
      localizationAgeNs := if 120000000 < age then 0 else age }, .ok)

def call : Task → App → App × Result
  | .heartbeatTask, app => heartbeatTask app
  | .localizationMonitorTask, app => localizationMonitorTask app

/-- What the clock reads in an iteration: before the round, and after each callback. -/
structure Iteration where
  now : ℤ
  after : ℕ → ℤ

/-- `run_due` with the callbacks that it dispatches. -/
def runDue (app : App) (t : Iteration) : Option (App × Result) := do
  let round ← app.executor.runDue t.now fun i => ⟨.ok, t.after i⟩
  let slots := round.dispatches.filterMap fun d => round.tasks[d.slot]?
  let called := slots.foldl (fun app slot => (call slot.fn app).1) app
  some ({ called with executor := { app.executor with tasks := round.tasks } },
    round.exit.result)

/-- The responses that `runDue` gives the executor are those of the callbacks. -/
@[simp] theorem call_snd (task : Task) (app : App) : (call task app).2 = .ok := by
  cases task <;> rfl

def degradedEvent : MonitorEvent where
  type := .localizationStale
  severity := .degraded
  code := 42
  detail := "demo-induced stale localization"

/-- The loop from the iteration numbered `iteration` on, with the exit status of `main`. -/
def demoLoop : ℕ → App → List Iteration → Option (App × ℕ)
  | _, app, [] => some (app, 0)
  | iteration, app, t :: ts => do
      let (app, result) ← runDue app t
      if !result.isOk then
        some (app, 1)
      else
        let app :=
          if iteration = 5 then
            { app with
              supervised := (app.supervised.call (.processMonitorEvent degradedEvent)).1 }
          else app
        demoLoop (iteration + 1) app ts

section Main

variable {α : Type*} [Zero α] [OfScientific α] [LT α] [DecidableLT α] [LE α] [DecidableLE α]
  [DecidableEq α] [FiniteTest α]

/-- `build_context` from the defaults with the environment over them. -/
def startup (getenv : String → Option (List Char)) (strtod : List Char → Conversion α) :
    ContextWithConfig Unit α × Result × List StartupEvent :=
  let configured := loadFromEnv getenv strtod makeDefaults
  buildContext getenv strtod () () ⟨makeDefaults, {}⟩
    { defaults := configured
      clock := some ()
      healthMonitor := some ()
      diagnosticTransport := some ()
      safetySupervisor := some () }

/-- The registration of the two tasks, at the clock readings `heartbeat` and `monitor`. -/
def register (cfg : SystemConfig α) (heartbeat monitor : ℤ) :
    Option (TaskExecutor Task 8 × Result) := do
  let (executor, applied) := TaskExecutor.initial.applyConfig cfg
  if !applied.isOk then
    some (executor, applied)
  else
    let (executor, added, _) ←
      executor.addTask (some .heartbeatTask) cfg.timing.controlPeriod heartbeat
    if !added.isOk then
      some (executor, added)
    else
      let period ← checked (cfg.timing.controlPeriod * 2)
      let (executor, added, _) ←
        executor.addTask (some .localizationMonitorTask) period monitor
      some (executor, added)

/-- What `main` leaves, and its exit status. -/
def main (getenv : String → Option (List Char)) (strtod : List Char → Conversion α)
    (heartbeat monitor : ℤ) (iterations : List Iteration) : Option (App × ℕ) := do
  let built := startup getenv strtod
  if !built.2.1.isOk then
    some ({}, 1)
  else
    let (executor, registered) ← register built.1.config heartbeat monitor
    if !registered.isOk then
      some ({ executor := executor }, 1)
    else
      demoLoop 0 { executor := executor } iterations

end Main

/-! ## The mode of the application -/

/-- The machine is where it was at the start, and the age is one that the monitor can leave. -/
structure Unmoved (app : App) : Prop where
  shared : app.supervised.machine.toShared = {}
  age : app.localizationAgeNs ≤ 120000000

/-- A call that is not critical requests no more than the degraded mode, which `Init` does not
grant. -/
theorem call_toShared {s : SafetySupervisor.Wired} (hs : s.machine.toShared = {})
    {c : SafetySupervisor.Call} (hrange : c.TimeoutInRange)
    (hcritical : c.criticalCode s.supervisor.lastSample = none) :
    (s.call c).1.machine.toShared = {} := by
  rcases SafetySupervisor.call_cases hrange with ⟨code, hcode, -⟩ | ⟨-, hkept | hrequest⟩
  · rw [hcritical] at hcode
    cases hcode
  · rw [hkept, hs]
  · rw [hrequest]
    unfold ModeStateMachine.transitionTo
    simp [Mode.allowed, hs]

namespace Unmoved

variable {app : App}

theorem localizationMonitorTask (h : Unmoved app) : Unmoved (localizationMonitorTask app).1 := by
  have hle : app.localizationAgeNs.toNat ≤ 120000000 := UInt64.le_iff_toNat_le.1 h.age
  have hage : (app.localizationAgeNs + 10000000).toNat =
      app.localizationAgeNs.toNat + 10000000 := by
    have hten : (10000000 : UInt64).toNat = 10000000 := rfl
    rw [UInt64.toNat_add, hten, Nat.mod_eq_of_lt (by omega)]
  have htimeout : (80000000 : UInt64).toNat = 80000000 := rfl
  constructor
  case shared =>
    refine call_toShared h.shared (by simp [SafetySupervisor.Call.TimeoutInRange, htimeout]) ?_
    rw [SafetySupervisor.Call.criticalCode, htimeout, hage]
    exact if_neg (by omega)
  case age =>
    unfold SafetyCoreApp.localizationMonitorTask
    dsimp only
    split
    · decide
    next hkept => exact UInt64.not_lt.1 hkept

theorem call (h : Unmoved app) (task : Task) : Unmoved (call task app).1 := by
  cases task with
  | heartbeatTask => exact ⟨h.shared, h.age⟩
  | localizationMonitorTask => exact h.localizationMonitorTask

theorem calls (h : Unmoved app) (slots : List (TaskSlot Task)) :
    Unmoved (slots.foldl (fun app slot => (SafetyCoreApp.call slot.fn app).1) app) := by
  induction slots generalizing app with
  | nil => exact h
  | cons slot slots ih => exact ih (h.call slot.fn)

theorem runDue (h : Unmoved app) {t : Iteration} {app' : App} {r : Result}
    (hrun : runDue app t = some (app', r)) : Unmoved app' := by
  obtain ⟨round, -, heq⟩ := Option.bind_eq_some_iff.1 hrun
  cases heq
  exact ⟨(h.calls _).shared, (h.calls _).age⟩

theorem injectDegraded (h : Unmoved app) :
    Unmoved { app with
      supervised := (app.supervised.call (.processMonitorEvent degradedEvent)).1 } :=
  ⟨call_toShared h.shared trivial rfl, h.age⟩

theorem demoLoop (h : Unmoved app) {iteration : ℕ} {ts : List Iteration} {app' : App}
    {status : ℕ} (hloop : demoLoop iteration app ts = some (app', status)) : Unmoved app' := by
  induction ts generalizing iteration app with
  | nil =>
      cases hloop
      exact h
  | cons t ts ih =>
      obtain ⟨⟨app₁, r⟩, hrun, heq⟩ := Option.bind_eq_some_iff.1 hloop
      have h₁ := h.runDue hrun
      dsimp only at heq
      split at heq
      · cases heq
        exact h₁
      · split at heq
        · exact ih h₁.injectDegraded heq
        · exact ih h₁ heq

end Unmoved

/-- Whatever the environment and the clock, `main` ends in `Init` without a latched fault. -/
theorem main_unmoved {α : Type*} [Zero α] [OfScientific α] [LT α] [DecidableLT α] [LE α]
    [DecidableLE α] [DecidableEq α] [FiniteTest α] (getenv : String → Option (List Char))
    (strtod : List Char → Conversion α) (heartbeat monitor : ℤ) (iterations : List Iteration) :
    ∀ app status, main getenv strtod heartbeat monitor iterations = some (app, status) →
      app.supervised.machine.toShared = {} ∧ app.localizationAgeNs ≤ 120000000 := by
  intro app status hmain
  have hstart (executor : TaskExecutor Task 8) : Unmoved { executor := executor } :=
    ⟨rfl, UInt64.zero_le⟩
  suffices hunmoved : Unmoved app from ⟨hunmoved.shared, hunmoved.age⟩
  unfold main at hmain
  dsimp only at hmain
  split at hmain
  · cases hmain
    exact hstart _
  · obtain ⟨⟨executor, registered⟩, -, heq⟩ := Option.bind_eq_some_iff.1 hmain
    dsimp only at heq
    split at heq
    · cases heq
      exact hstart executor
    · exact (hstart executor).demoLoop heq

/-- Ten iterations of 20.1 ms each, with callbacks that take 10 µs. -/
def tenIterations : List Iteration :=
  (List.range 10).map fun i : ℕ =>
    { now := 1000000 + i * 20100000
      after := fun _ => 1010000 + i * 20100000 }

def noEnv : String → Option (List Char) := fun _ => none

def noDouble : List Char → Conversion (ExactDouble ℚ) := fun s => ⟨0, s, false⟩

theorem main_unmoved_tenIterations : ∃ app status,
    main noEnv noDouble 0 500000 tenIterations = some (app, status) ∧
      app.supervised.machine.toShared = {} ∧ app.localizationAgeNs ≤ 120000000 := by
  have hsome : (main noEnv noDouble 0 500000 tenIterations).isSome = true := by decide +kernel
  obtain ⟨⟨app, status⟩, hmain⟩ := Option.isSome_iff_exists.1 hsome
  exact ⟨app, status, hmain, main_unmoved noEnv noDouble 0 500000 tenIterations app status hmain⟩

end SafetyCoreApp

end SafetyCore
