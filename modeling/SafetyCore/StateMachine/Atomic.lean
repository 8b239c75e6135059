import SafetyCore.StateMachine.Machine
import SafetyCore.Transition.Interleaving

/-!
# The mode state machine, one atomic access at a time

`threadStep` cuts every operation of the machine at its atomic accesses: each
load, store and compare-exchange of `mode_` and `latched_fault_` is one
`access`. A program counter `Pc` names the next access and holds the local
variables that are live there. `fault_code_` is not atomic; its write goes with
the store of the flag just before it.

`compare_exchange_weak` may fail although the value is the expected one, so an
access says whether such a spurious failure occurs.

`solo_eq_apply` connects the two views of the machine: an operation that runs
without interference does what `ModeStateMachine.apply` says.
-/

namespace SafetyCore

namespace StateMachine

open Transition

/-- The next atomic access of a thread, or the result of its last operation. -/
inductive Pc
  | idle (ret : Option Result)
  | transitionLatch (target : Mode)
  | transitionAllowed (target : Mode)
  | transitionPrev (target : Mode)
  | transitionCas (target prev : Mode)
  | transitionRecheck (target prev : Mode)
  | latchFlag (faultCode : UInt16)
  | latchMode (faultCode : UInt16)
  | clearCheck
  | clearFlag
  | clearPrev
  | clearCas (prev : Mode)
  | recoverLoad
  | recoverCas (prev : Mode)
  deriving DecidableEq, Repr

inductive Action
  | start (op : Op)
  | access (spurious : Bool)
  deriving DecidableEq, Repr

/-- The first access of an operation. -/
def Pc.entry : Op → Pc
  | .transitionTo target => .transitionLatch target
  | .latchFault faultCode => .latchFlag faultCode
  | .clearFault => .clearCheck
  | .recoverLocalization => .recoverLoad

/-- A thread that has returned is between two operations. -/
def Pc.isIdle : Pc → Bool
  | .idle _ => true
  | _ => false

/-- Whether `compare_exchange_weak(prev, _)` succeeds. -/
def exchanges (spurious : Bool) (m : Shared) (prev : Mode) : Bool :=
  m.mode = prev && !spurious

/-- One atomic access of a thread at `pc`. -/
def access (spurious : Bool) (m : Shared) : Pc → Shared × Pc
  | .idle ret => (m, .idle ret)
  | .transitionLatch target =>
      if m.latchedFault && target ≠ .safeStop then
        (m, .idle (some (.invalidState "fault latched; only SafeStop allowed")))
      else
        (m, .transitionAllowed target)
  | .transitionAllowed target =>
      if !m.mode.allowed target then
        (m, .idle (some (.invalidState "transition not allowed")))
      else
        (m, .transitionPrev target)
  | .transitionPrev target => (m, .transitionCas target m.mode)
  | .transitionCas target prev =>
      if exchanges spurious m prev then
        ({ m with mode := target }, .idle (some .ok))
      else
        (m, .transitionRecheck target m.mode)
  | .transitionRecheck target prev =>
      if !m.mode.allowed target then
        (m, .idle (some (.invalidState "transition not allowed")))
      else if prev = target then
        (m, .idle (some .ok))
      else
        (m, .transitionCas target prev)
  | .latchFlag faultCode =>
      ({ m with latchedFault := true, faultCode := faultCode }, .latchMode faultCode)
  | .latchMode _ =>
      ({ m with mode := .safeStop }, .idle (some (.fault "fault latched")))
  | .clearCheck =>
      if !m.latchedFault then
        (m, .idle (some (.invalidState "no fault latched")))
      else
        (m, .clearFlag)
  | .clearFlag => ({ m with latchedFault := false, faultCode := 0 }, .clearPrev)
  | .clearPrev => (m, .clearCas m.mode)
  | .clearCas prev =>
      if exchanges spurious m prev then
        ({ m with mode := .idle }, .idle (some .ok))
      else
        (m, .clearCas m.mode)
  | .recoverLoad =>
      if m.mode ≠ .localizationLost then
        (m, .idle (some (.invalidState "not in LocalizationLost")))
      else
        (m, .recoverCas m.mode)
  | .recoverCas prev =>
      if exchanges spurious m prev then
        ({ m with mode := .degraded }, .idle (some .ok))
      else if m.mode ≠ .localizationLost then
        (m, .idle (some (.invalidState "state changed during recovery")))
      else
        (m, .recoverCas m.mode)

/-- An idle thread may start an operation; a thread inside one makes its next
access. Other actions leave everything as it is. -/
def threadStep : Action → Shared → Pc → Shared × Pc
  | .start op, m, .idle _ => (m, Pc.entry op)
  | .start _, m, pc => (m, pc)
  | .access spurious, m, pc => access spurious m pc

abbrev Threads (ι : Type*) := Interleaved ι Shared Pc

/-- All threads on one machine. A schedule is any list of pairs of a thread and
an action. -/
abbrev threads (ι : Type*) [DecidableEq ι] :
    Component (Threads ι) (ι × Action) Unit :=
  interleave threadStep

/-- A new machine, before any thread has called it. -/
def Threads.initial (ι : Type*) : Threads ι where
  shared := {}
  loc _ := .idle none

/-- No operation is in progress. -/
def Threads.Quiescent {ι : Type*} (s : Threads ι) : Prop :=
  ∀ i, (s.loc i).isIdle = true

/-! ## Operations without interference -/

/-- Where a lone thread can stand inside the operation `op` called on `m`, and
what it has done to the memory by then. -/
def SoloAt (m : ModeStateMachine) (op : Op) (s : Shared) : Pc → Prop
  | .idle ret => s = (m.apply op).1.toShared ∧ ret = some (m.apply op).2
  | .transitionLatch target => op = .transitionTo target ∧ s = m.toShared
  | .transitionAllowed target =>
      op = .transitionTo target ∧ s = m.toShared ∧
        ¬ (m.latchedFault = true ∧ target ≠ .safeStop)
  | .transitionPrev target =>
      op = .transitionTo target ∧ s = m.toShared ∧
        ¬ (m.latchedFault = true ∧ target ≠ .safeStop) ∧
        m.mode.allowed target = true
  | .transitionCas target prev | .transitionRecheck target prev =>
      op = .transitionTo target ∧ s = m.toShared ∧
        ¬ (m.latchedFault = true ∧ target ≠ .safeStop) ∧
        m.mode.allowed target = true ∧ prev = m.mode
  | .latchFlag faultCode => op = .latchFault faultCode ∧ s = m.toShared
  | .latchMode faultCode =>
      op = .latchFault faultCode ∧
        s = { m.toShared with latchedFault := true, faultCode := faultCode }
  | .clearCheck => op = .clearFault ∧ s = m.toShared
  | .clearFlag => op = .clearFault ∧ s = m.toShared ∧ m.latchedFault = true
  | .clearPrev =>
      op = .clearFault ∧ m.latchedFault = true ∧
        s = { m.toShared with latchedFault := false, faultCode := 0 }
  | .clearCas prev =>
      op = .clearFault ∧ m.latchedFault = true ∧ prev = m.mode ∧
        s = { m.toShared with latchedFault := false, faultCode := 0 }
  | .recoverLoad => op = .recoverLocalization ∧ s = m.toShared
  | .recoverCas prev =>
      op = .recoverLocalization ∧ s = m.toShared ∧ prev = m.mode ∧
        m.mode = .localizationLost

theorem soloAt_entry (m : ModeStateMachine) (op : Op) :
    SoloAt m op m.toShared (Pc.entry op) := by
  cases op <;> exact ⟨rfl, rfl⟩

theorem soloAt_access (m : ModeStateMachine) (op : Op) (spurious : Bool)
    (s : Shared) (pc : Pc) (h : SoloAt m op s pc) :
    SoloAt m op (access spurious s pc).1 (access spurious s pc).2 := by
  cases pc with
  | idle ret => exact h
  | transitionLatch target =>
      obtain ⟨rfl, rfl⟩ := h
      by_cases hl : m.latchedFault = true ∧ target ≠ .safeStop
      · simp [access, SoloAt, ModeStateMachine.apply, ModeStateMachine.transitionTo,
          ModeStateMachine.record, hl]
      · simp [access, SoloAt, hl]
  | transitionAllowed target =>
      obtain ⟨rfl, rfl, hl⟩ := h
      by_cases ha : m.mode.allowed target = true
      · simp [access, SoloAt, hl, ha]
      · simp [access, SoloAt, ModeStateMachine.apply, ModeStateMachine.transitionTo,
          ModeStateMachine.record, hl, ha]
  | transitionPrev target =>
      obtain ⟨rfl, rfl, hl, ha⟩ := h
      exact ⟨rfl, rfl, hl, ha, rfl⟩
  | transitionCas target prev =>
      obtain ⟨rfl, rfl, hl, ha, rfl⟩ := h
      cases spurious
      · simp [access, exchanges, SoloAt, ModeStateMachine.apply,
          ModeStateMachine.transitionTo, ModeStateMachine.record, hl, ha]
      · simp [access, exchanges, SoloAt, hl, ha]
  | transitionRecheck target prev =>
      obtain ⟨rfl, rfl, hl, ha, rfl⟩ := h
      by_cases ht : m.mode = target
      · subst ht
        simp [access, SoloAt, ModeStateMachine.apply, ModeStateMachine.transitionTo,
          ModeStateMachine.record, hl]
      · simp [access, SoloAt, hl, ha, ht]
  | latchFlag faultCode =>
      obtain ⟨rfl, rfl⟩ := h
      exact ⟨rfl, rfl⟩
  | latchMode faultCode =>
      obtain ⟨rfl, rfl⟩ := h
      exact ⟨rfl, rfl⟩
  | clearCheck =>
      obtain ⟨rfl, rfl⟩ := h
      by_cases hl : m.latchedFault = true
      · simp [access, SoloAt, hl]
      · simp [access, SoloAt, ModeStateMachine.apply, ModeStateMachine.clearFault,
          ModeStateMachine.record, hl]
  | clearFlag =>
      obtain ⟨rfl, rfl, hl⟩ := h
      exact ⟨rfl, hl, rfl⟩
  | clearPrev =>
      obtain ⟨rfl, hl, rfl⟩ := h
      exact ⟨rfl, hl, rfl, rfl⟩
  | clearCas prev =>
      obtain ⟨rfl, hl, rfl, rfl⟩ := h
      cases spurious
      · simp [access, exchanges, SoloAt, ModeStateMachine.apply,
          ModeStateMachine.clearFault, ModeStateMachine.record, hl]
      · simp [access, exchanges, SoloAt, hl]
  | recoverLoad =>
      obtain ⟨rfl, rfl⟩ := h
      by_cases hm : m.mode = .localizationLost
      · simp [access, SoloAt, hm]
      · simp [access, SoloAt, ModeStateMachine.apply,
          ModeStateMachine.recoverLocalization, ModeStateMachine.record, hm]
  | recoverCas prev =>
      obtain ⟨rfl, rfl, rfl, hm⟩ := h
      cases spurious
      · simp [access, exchanges, SoloAt, ModeStateMachine.apply,
          ModeStateMachine.recoverLocalization, ModeStateMachine.record, hm]
      · simp [access, exchanges, SoloAt, hm]

/-- An operation that returns without interference has done to the memory, and
returns, what the sequential machine says, whatever spurious failures its
compare-exchanges met. -/
theorem solo_eq_apply (m : ModeStateMachine) (op : Op) (ret : Option Result)
    (spurious : List Bool) {r : Option Result}
    (hr : (solo threadStep m.toShared (.idle ret)
      (.start op :: spurious.map .access)).2 = .idle r) :
    (solo threadStep m.toShared (.idle ret)
        (.start op :: spurious.map .access)).1 = (m.apply op).1.toShared ∧
      r = some (m.apply op).2 := by
  have hkeep : ∀ a ∈ spurious.map Action.access, ∀ s pc, SoloAt m op s pc →
      SoloAt m op (threadStep a s pc).1 (threadStep a s pc).2 := by
    intro a ha s pc h
    obtain ⟨b, _, rfl⟩ := List.mem_map.1 ha
    exact soloAt_access m op b s pc h
  have h := solo_invariant hkeep (soloAt_entry m op)
  rw [solo_cons] at hr ⊢
  simp only [threadStep] at hr ⊢
  rw [hr] at h
  exact h

/-- Four accesses complete every operation if none of them fails spuriously. -/
theorem solo_returns (m : ModeStateMachine) (op : Op) (ret : Option Result) :
    ((solo threadStep m.toShared (.idle ret)
      (.start op :: [false, false, false, false].map .access)).2).isIdle = true := by
  cases op with
  | transitionTo target =>
      by_cases hl : m.latchedFault = true ∧ target ≠ .safeStop <;>
        by_cases ha : m.mode.allowed target = true <;>
          simp [threadStep, Pc.entry, access, exchanges, Pc.isIdle, hl, ha]
  | latchFault faultCode => rfl
  | clearFault =>
      by_cases hl : m.latchedFault = true <;>
        simp [threadStep, Pc.entry, access, exchanges, Pc.isIdle, hl]
  | recoverLocalization =>
      by_cases hm : m.mode = .localizationLost <;>
        simp [threadStep, Pc.entry, access, exchanges, Pc.isIdle, hm]

end StateMachine

end SafetyCore
