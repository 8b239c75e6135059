import SafetyCore.Result
import SafetyCore.StateMachine.Mode

/-!
# The mode state machine

`ModeStateMachine` as one thread sees it: `mode_`, `latched_fault_` and
`fault_code_`, which `Shared` collects because they are what several threads
share, and the health monitor. The monitor is modelled by the list of the
notifications it has received, oldest first; `none` is a machine without a
monitor. Diagnostic events are output only and are left out.

`calls` records the operations that were called on the machine, newest first.
The machine never reads it: it lets a caller's requests be observed even when
the machine refuses them.
-/

namespace SafetyCore

/-- The fields of the machine that its operations read and write. -/
structure Shared where
  mode : Mode := .init
  latchedFault : Bool := false
  faultCode : UInt16 := 0
  deriving DecidableEq, Repr

/-- The two callbacks of `HealthMonitor` that the machine calls. -/
inductive Notification
  | modeTransition (prev target : Mode)
  | faultLatched (faultCode : UInt16)
  deriving DecidableEq, Repr

/-- The operations of the machine. `request_obstacle_hold` and
`report_localization_lost` are `transition_to` with a fixed target. -/
inductive Op
  | transitionTo (target : Mode)
  | latchFault (faultCode : UInt16)
  | clearFault
  | recoverLocalization
  deriving DecidableEq, Repr

namespace Op

def requestObstacleHold : Op := .transitionTo .avoidingObstacle

def reportLocalizationLost : Op := .transitionTo .localizationLost

end Op

structure ModeStateMachine extends Shared where
  monitor : Option (List Notification) := none
  calls : List Op := []
  deriving DecidableEq, Repr

namespace ModeStateMachine

/-- Deliver a notification to the monitor, if there is one. -/
def notify (m : ModeStateMachine) (n : Notification) : ModeStateMachine :=
  { m with monitor := m.monitor.map (· ++ [n]) }

def notifyTransition (m : ModeStateMachine) (prev target : Mode) :
    ModeStateMachine :=
  if prev = target then m else m.notify (.modeTransition prev target)

def notifyFault (m : ModeStateMachine) (faultCode : UInt16) : ModeStateMachine :=
  m.notify (.faultLatched faultCode)

def record (m : ModeStateMachine) (op : Op) : ModeStateMachine :=
  { m with calls := op :: m.calls }

def transitionTo (m : ModeStateMachine) (target : Mode) :
    ModeStateMachine × Result :=
  let m := m.record (.transitionTo target)
  if m.latchedFault && target ≠ .safeStop then
    (m, .invalidState "fault latched; only SafeStop allowed")
  else if !m.mode.allowed target then
    (m, .invalidState "transition not allowed")
  else
    -- without other threads the value validated is the value exchanged
    (({ m with mode := target } : ModeStateMachine).notifyTransition m.mode target,
      .ok)

def latchFault (m : ModeStateMachine) (faultCode : UInt16) :
    ModeStateMachine × Result :=
  let m := m.record (.latchFault faultCode)
  let m := { m with latchedFault := true, faultCode := faultCode, mode := .safeStop }
  (m.notifyFault faultCode, .fault "fault latched")

def clearFault (m : ModeStateMachine) : ModeStateMachine × Result :=
  let m := m.record .clearFault
  if !m.latchedFault then
    (m, .invalidState "no fault latched")
  else
    let m' := { m with latchedFault := false, faultCode := 0, mode := .idle }
    (m'.notifyTransition m.mode .idle, .ok)

def requestObstacleHold (m : ModeStateMachine) : ModeStateMachine × Result :=
  m.transitionTo .avoidingObstacle

def reportLocalizationLost (m : ModeStateMachine) : ModeStateMachine × Result :=
  m.transitionTo .localizationLost

/-- Recovery notifies nobody, unlike the other transitions. -/
def recoverLocalization (m : ModeStateMachine) : ModeStateMachine × Result :=
  let m := m.record .recoverLocalization
  if m.mode ≠ .localizationLost then
    (m, .invalidState "not in LocalizationLost")
  else
    ({ m with mode := .degraded }, .ok)

def apply (m : ModeStateMachine) : Op → ModeStateMachine × Result
  | .transitionTo target => m.transitionTo target
  | .latchFault faultCode => m.latchFault faultCode
  | .clearFault => m.clearFault
  | .recoverLocalization => m.recoverLocalization

section Frame

variable (m : ModeStateMachine)

@[simp] theorem notifyTransition_toShared (prev target : Mode) :
    (m.notifyTransition prev target).toShared = m.toShared := by
  unfold notifyTransition
  split <;> rfl

@[simp] theorem notifyTransition_calls (prev target : Mode) :
    (m.notifyTransition prev target).calls = m.calls := by
  unfold notifyTransition
  split <;> rfl

@[simp] theorem record_toShared (op : Op) : (m.record op).toShared = m.toShared := rfl

@[simp] theorem record_calls (op : Op) : (m.record op).calls = op :: m.calls := rfl

end Frame

/-! ## What an operation does to the mode and the latch -/

section Spec

variable (m : ModeStateMachine) (target : Mode)

theorem transitionTo_mode :
    (m.transitionTo target).1.mode =
      if (m.latchedFault = true ∧ target ≠ .safeStop) ∨ m.mode.allowed target = false
      then m.mode else target := by
  unfold transitionTo
  by_cases hl : m.latchedFault = true ∧ target ≠ .safeStop
  · simp [hl]
  · have hl' : (m.latchedFault && target ≠ .safeStop) = false := by simpa using hl
    by_cases ha : m.mode.allowed target = true
    · simp only [record_toShared, hl', ha, hl, false_or]
      simp
    · simp only [Bool.not_eq_true] at ha
      simp [hl, ha]

@[simp] theorem transitionTo_latchedFault :
    (m.transitionTo target).1.latchedFault = m.latchedFault := by
  unfold transitionTo
  dsimp only
  split
  · rfl
  · split
    · rfl
    · simp

@[simp] theorem transitionTo_faultCode :
    (m.transitionTo target).1.faultCode = m.faultCode := by
  unfold transitionTo
  dsimp only
  split
  · rfl
  · split
    · rfl
    · simp

@[simp] theorem transitionTo_calls :
    (m.transitionTo target).1.calls = .transitionTo target :: m.calls := by
  unfold transitionTo
  dsimp only
  split
  · rfl
  · split
    · rfl
    · simp

@[simp] theorem latchFault_mode (faultCode : UInt16) :
    (m.latchFault faultCode).1.mode = .safeStop := rfl

@[simp] theorem latchFault_latchedFault (faultCode : UInt16) :
    (m.latchFault faultCode).1.latchedFault = true := rfl

@[simp] theorem latchFault_faultCode (faultCode : UInt16) :
    (m.latchFault faultCode).1.faultCode = faultCode := rfl

@[simp] theorem latchFault_calls (faultCode : UInt16) :
    (m.latchFault faultCode).1.calls = .latchFault faultCode :: m.calls := rfl

theorem clearFault_mode :
    m.clearFault.1.mode = if m.latchedFault = true then .idle else m.mode := by
  unfold clearFault
  by_cases hl : m.latchedFault = true <;> simp [hl]

@[simp] theorem clearFault_latchedFault : m.clearFault.1.latchedFault = false := by
  unfold clearFault
  by_cases hl : m.latchedFault = true <;> simp [hl]

end Spec

/-- The machine is in the safe stop exactly while a fault is latched. A caller
keeps it so who enters the safe stop only by latching a fault. -/
def Settled (m : ModeStateMachine) : Prop :=
  m.latchedFault = true ↔ m.mode = .safeStop

namespace Settled

variable {m : ModeStateMachine} {target : Mode}

/-- Where the safe stop and the latch agree, the table alone decides about every
other target. -/
theorem transitionTo_mode (h : m.Settled) (ht : target ≠ .safeStop) :
    (m.transitionTo target).1.mode =
      if m.mode.allowed target = true then target else m.mode := by
  rw [ModeStateMachine.transitionTo_mode]
  by_cases hl : m.latchedFault = true
  · have hm : m.mode = .safeStop := h.1 hl
    rw [if_pos (.inl ⟨hl, ht⟩), if_neg]
    rw [hm, Mode.safeStop_allowed_iff]
    exact ht
  · by_cases ha : m.mode.allowed target = true <;> simp [hl, ha]

theorem transitionTo (h : m.Settled) (ht : target ≠ .safeStop) :
    (m.transitionTo target).1.Settled := by
  unfold Settled
  rw [transitionTo_latchedFault, h.transitionTo_mode ht]
  split
  · rename_i ha
    constructor
    · intro hl
      rw [h.1 hl, Mode.safeStop_allowed_iff] at ha
      exact ha
    · exact fun hts => absurd hts ht
  · exact h

theorem latchFault (m : ModeStateMachine) (faultCode : UInt16) :
    (m.latchFault faultCode).1.Settled := by
  simp [Settled]

theorem clearFault (h : m.Settled) : m.clearFault.1.Settled := by
  unfold Settled
  rw [clearFault_latchedFault, clearFault_mode]
  by_cases hl : m.latchedFault = true
  · simp [hl]
  · simpa [hl] using (Iff.not h).1 hl

end Settled

end ModeStateMachine

end SafetyCore
