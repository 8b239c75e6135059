import SafetyCore.Arithmetic.Int64
import SafetyCore.Config.SystemConfig
import SafetyCore.Result
import SafetyCore.Transition.Component

/-!
# The task executor

`TaskExecutor` runs periodic tasks: every slot holds a task with the time point of its
next release, and `run_due` dispatches the releases that are due. Time points and
durations are signed counts of nanoseconds, and a computation with them that leaves
the 64-bit range has no result, so an operation whose model is `none` would overflow.

Slots are filled in order and never freed: the array is the list of its used slots, at
most `capacity` of them. A callback and its context are one value of `κ`. What the
callbacks of a `run_due` return, and what the clock reads after each of them, is part of
the event.
-/

namespace SafetyCore

open Arithmetic Transition

inductive CatchUpPolicy
  | singleStep
  | boundedCatchUp
  deriving DecidableEq, Repr

/-- `TaskSlot` of a used slot; `add_task` only accepts positive periods. -/
structure TaskSlot (κ : Type) where
  period : ℤ
  nextRelease : ℤ
  fn : κ
  period_pos : 0 < period

/-- `TaskExecutor<capacity>`. -/
structure TaskExecutor (κ : Type) (capacity : ℕ) where
  tasks : List (TaskSlot κ)
  maxTasks : ℕ
  defaultPeriod : ℤ
  watchdogPeriod : ℤ
  catchUpPolicy : CatchUpPolicy
  catchUpLimit : ℕ
  catchUpLimit_pos : 0 < catchUpLimit

namespace TaskExecutor

/-- What is handed to the diagnostic transport. -/
structure Diagnostic where
  topic : String
  payload : String
  deriving DecidableEq, Repr

def kExecutorTaskAdded : String := "executor.task_added"
def kExecutorTaskRun : String := "executor.task_run"
def kExecutorTaskError : String := "executor.task_error"
def kExecutorDeadlineMiss : String := "executor.deadline_miss"
def kExecutorWatchdogExceeded : String := "executor.watchdog_exceeded"
def kExecutorCatchUpLimited : String := "executor.catch_up_limited"

/-- `time::TimePoint::max()`. -/
def timePointMax : ℤ := int64Max

/-- What a callback returns, and what the clock reads afterwards. -/
structure Response where
  result : Result
  now : ℤ
  deriving DecidableEq, Repr

/-- The ways in which `run_due` returns. -/
inductive Exit
  | completed
  | invalidPeriod
  | deadlineOverflow
  | watchdogExceeded
  | progressionOverflow
  | taskFailed (r : Result)
  | overranDeadline
  deriving DecidableEq, Repr

/-- The code of a status in a payload. -/
def codeNumber : StatusCode → ℕ
  | .ok => 0
  | .invalidState => 1
  | .deadlineMiss => 2
  | .fault => 3

def Exit.result : Exit → Result
  | .completed => .ok
  | .invalidPeriod => .fault "task period must be positive"
  | .deadlineOverflow => .fault "task deadline overflow"
  | .watchdogExceeded => .deadlineMiss "watchdog window exceeded"
  | .progressionOverflow => .fault "task release progression overflow"
  | .taskFailed r => r
  | .overranDeadline => .deadlineMiss "task overran deadline"

/-- A call of the callback in a slot. -/
structure Dispatch where
  slot : ℕ
  release : ℤ
  deriving DecidableEq, Repr

/-- What the loop over the releases of one slot does: the slot afterwards, the releases
its callback was called with, and the way in which `run_due` returns, if it does. -/
structure SlotRun (κ : Type) where
  task : TaskSlot κ
  releases : List ℤ := []
  diagnostics : List Diagnostic := []
  exit : Option Exit := none

/-- What `run_due` does: the slots afterwards, the calls in order, and the way in which it
returns. -/
structure Round (κ : Type) where
  tasks : List (TaskSlot κ)
  dispatches : List Dispatch
  diagnostics : List Diagnostic
  exit : Exit

section Operations

variable {κ : Type} {capacity : ℕ}

def initial : TaskExecutor κ capacity where
  tasks := []
  maxTasks := capacity
  defaultPeriod := 0
  watchdogPeriod := 0
  catchUpPolicy := .singleStep
  catchUpLimit := 1
  catchUpLimit_pos := one_pos

variable (x : TaskExecutor κ capacity)

def setCatchUpPolicy (policy : CatchUpPolicy) (maxRunsPerTick : ℕ) :
    TaskExecutor κ capacity :=
  { x with
    catchUpPolicy := policy
    catchUpLimit := if maxRunsPerTick = 0 then 1 else maxRunsPerTick
    catchUpLimit_pos := by split <;> omega }

def applyConfig {α : Type*} (cfg : SystemConfig α) : TaskExecutor κ capacity × Result :=
  if capacity < cfg.maxTasks.toNat then
    (x, .fault "configured max tasks exceeds executor capacity")
  else
    ({ x with
        maxTasks := cfg.maxTasks.toNat
        defaultPeriod := cfg.timing.controlPeriod
        watchdogPeriod := cfg.timing.watchdogPeriod }, .ok)

def usePeriod (period : ℤ) : ℤ := if period = 0 then x.defaultPeriod else period

/-- `add_task` at the clock reading `now`. The bound `max_tasks_` is only read for the
text of the last fault. -/
def addTask (fn : Option κ) (period now : ℤ) :
    Option (TaskExecutor κ capacity × Result × List Diagnostic) :=
  match fn with
  | none => some (x, .invalidState "task callback must be non-null", [])
  | some fn =>
      if x.usePeriod period = 0 then
        some (x, .invalidState "task period must be non-zero", [])
      else if capacity < x.maxTasks then
        some (x, .fault "internal error: max_tasks exceeds capacity", [])
      else if x.tasks.length < capacity then
        if hperiod : x.usePeriod period ≤ 0 then
          some (x, .fault "task period must be positive",
            [⟨kExecutorTaskError, "reason=invalid_period"⟩])
        else do
          let latest ← checked (timePointMax - x.usePeriod period)
          if latest < now then
            some (x, .fault "task release time overflow",
              [⟨kExecutorTaskError, "reason=release_time_overflow"⟩])
          else do
            let release ← checked (now + x.usePeriod period)
            let slot : TaskSlot κ :=
              { period := x.usePeriod period
                nextRelease := release
                fn := fn
                period_pos := not_le.1 hperiod }
            some ({ x with tasks := x.tasks ++ [slot] }, .ok,
              [⟨kExecutorTaskAdded, "period_ns=" ++ toString slot.period⟩])
      else if x.maxTasks ≤ x.tasks.length then
        some (x, .fault "task capacity exceeded", [])
      else
        some (x, .fault "no task slots available", [])

/-- How many releases of a slot are dispatched in one `run_due`, at most. -/
def runLimit : ℕ :=
  match x.catchUpPolicy with
  | .singleStep => 1
  | .boundedCatchUp => x.catchUpLimit

/-- The lag of a release that the watchdog reports. -/
def watchdogLag (now release : ℤ) : Option (Option ℤ) :=
  if 0 < x.watchdogPeriod then do
    let lag ← checked (now - release)
    some (if x.watchdogPeriod < lag then some lag else none)
  else
    some none

/-- The `while` loop over the releases of a slot, with `remaining` runs left before the
limit. The callback that is called next is the one numbered `calls` of the round. -/
def runTask (now : ℤ) (respond : ℕ → Response) :
    ℕ → ℕ → TaskSlot κ → Option (SlotRun κ)
  | 0, _, slot =>
      if x.catchUpPolicy = .boundedCatchUp ∧ slot.nextRelease ≤ now then do
        let lag ← checked (now - slot.nextRelease)
        some
          { task := slot
            diagnostics := [⟨kExecutorCatchUpLimited, "remaining_lag_ns=" ++ toString lag⟩] }
      else
        some { task := slot }
  | remaining + 1, calls, slot =>
      if now < slot.nextRelease then
        some { task := slot }
      else if slot.period ≤ 0 then
        some
          { task := slot
            diagnostics := [⟨kExecutorTaskError, "reason=invalid_period_runtime"⟩]
            exit := some .invalidPeriod }
      else do
        let release := slot.nextRelease
        let latest ← checked (timePointMax - slot.period)
        if latest < release then
          some
            { task := slot
              diagnostics := [⟨kExecutorTaskError, "reason=deadline_overflow"⟩]
              exit := some .deadlineOverflow }
        else do
          match ← x.watchdogLag now release with
          | some lag =>
              some
                { task := slot
                  diagnostics := [⟨kExecutorWatchdogExceeded, "lag_ns=" ++ toString lag⟩]
                  exit := some .watchdogExceeded }
          | none =>
              let deadline ← checked (release + slot.period)
              let r := respond calls
              let latest ← checked (timePointMax - slot.period)
              if latest < slot.nextRelease then
                some
                  { task := slot
                    releases := [release]
                    diagnostics := [⟨kExecutorTaskError, "reason=next_release_overflow"⟩]
                    exit := some .progressionOverflow }
              else do
                let nextRelease ← checked (slot.nextRelease + slot.period)
                let slot := { slot with nextRelease := nextRelease }
                if !r.result.isOk then
                  some
                    { task := slot
                      releases := [release]
                      diagnostics :=
                        [⟨kExecutorTaskError,
                          "code=" ++ toString (codeNumber r.result.code)⟩]
                      exit := some (.taskFailed r.result) }
                else if deadline < r.now then
                  some
                    { task := slot
                      releases := [release]
                      diagnostics :=
                        [⟨kExecutorDeadlineMiss, "deadline_ns=" ++ toString deadline⟩]
                      exit := some .overranDeadline }
                else do
                  let rest ← runTask now respond remaining (calls + 1) slot
                  some { rest with releases := release :: rest.releases }

/-- The loop over the slots, from the slot numbered `index` on. -/
def runSlots (now : ℤ) (respond : ℕ → Response) :
    ℕ → ℕ → List (TaskSlot κ) → Option (Round κ)
  | _, _, [] => some ⟨[], [], [], .completed⟩
  | index, calls, slot :: slots =>
      if now < slot.nextRelease then do
        let rest ← runSlots now respond (index + 1) calls slots
        some { rest with tasks := slot :: rest.tasks }
      else do
        let run ← x.runTask now respond x.runLimit calls slot
        let dispatches := run.releases.map (Dispatch.mk index)
        match run.exit with
        | some exit => some ⟨run.task :: slots, dispatches, run.diagnostics, exit⟩
        | none => do
            let taskRun : Diagnostic :=
              ⟨kExecutorTaskRun, "next_release_ns=" ++ toString run.task.nextRelease⟩
            let rest ←
              runSlots now respond (index + 1) (calls + run.releases.length) slots
            some
              ⟨run.task :: rest.tasks, dispatches ++ rest.dispatches,
                run.diagnostics ++ taskRun :: rest.diagnostics, rest.exit⟩

def runDue (now : ℤ) (respond : ℕ → Response) : Option (Round κ) :=
  x.runSlots now respond 0 0 x.tasks

end Operations

/-! ## The executor driven by its calls -/

/-- The calls with their arguments, the clock reading of `add_task` and the responses of
the callbacks of `run_due`. -/
inductive Event (κ : Type) (α : Type*)
  | applyConfig (cfg : SystemConfig α)
  | setCatchUpPolicy (policy : CatchUpPolicy) (maxRunsPerTick : ℕ)
  | addTask (fn : Option κ) (period now : ℤ)
  | runDue (now : ℤ) (respond : ℕ → Response)

/-- What a call does besides changing the executor. -/
inductive Output
  | policySet
  | returned (r : Result) (diagnostics : List Diagnostic)
  /-- A task with this period is registered in this slot, at this clock reading. -/
  | added (slot : ℕ) (period now : ℤ) (diagnostics : List Diagnostic)
  | ran (exit : Exit) (dispatches : List Dispatch) (diagnostics : List Diagnostic)
  /-- A computation with time points overflows. -/
  | overflow
  deriving DecidableEq, Repr

def component {κ : Type} {capacity : ℕ} {α : Type*} :
    Component (TaskExecutor κ capacity) (Event κ α) Output where
  next x
    | .applyConfig cfg => (x.applyConfig cfg).1
    | .setCatchUpPolicy policy maxRunsPerTick => x.setCatchUpPolicy policy maxRunsPerTick
    | .addTask fn period now =>
        match x.addTask fn period now with
        | some (x', _, _) => x'
        | none => x
    | .runDue now respond =>
        match x.runDue now respond with
        | some round => { x with tasks := round.tasks }
        | none => x
  output x
    | .applyConfig cfg => .returned (x.applyConfig cfg).2 []
    | .setCatchUpPolicy _ _ => .policySet
    | .addTask fn period now =>
        match x.addTask fn period now with
        | some (_, r, diagnostics) =>
            if r.isOk then .added x.tasks.length (x.usePeriod period) now diagnostics
            else .returned r diagnostics
        | none => .overflow
    | .runDue now respond =>
        match x.runDue now respond with
        | some round => .ran round.exit round.dispatches round.diagnostics
        | none => .overflow

end TaskExecutor

end SafetyCore
