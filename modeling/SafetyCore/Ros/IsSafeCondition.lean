import SafetyCore.Ros.SupervisorNode

/-!
# The condition of the behavior tree

`IsSafeCondition` keeps the last `SafetyState` that it has received, and every tick of the
behavior tree asks it whether the robot may move. Its two ports have their defaults where they
are not set.
-/

namespace SafetyCore

open Transition

/-- The two results of a tick. -/
inductive NodeStatus
  | success
  | failure
  deriving DecidableEq, Repr

structure IsSafeCondition where
  lastMsg : SafetyState
  haveMsg : Bool
  deriving DecidableEq, Repr

namespace IsSafeCondition

inductive Event
  | safetyState (msg : SafetyState)
  | tick (allowWarning allowProtective : Option Bool)
  deriving DecidableEq, Repr

def initial : IsSafeCondition where
  lastMsg :=
    { mode := .init
      faultLatched := false
      faultCode := 0
      zone := .clear
      safeStopRequested := false }
  haveMsg := false

def onSafetyState (_c : IsSafeCondition) (msg : SafetyState) : IsSafeCondition where
  lastMsg := msg
  haveMsg := true

variable (c : IsSafeCondition)

def tick (allowWarning allowProtective : Option Bool) : NodeStatus :=
  if !c.haveMsg then
    .failure
  else if c.lastMsg.faultLatched || c.lastMsg.safeStopRequested then
    .failure
  else if c.lastMsg.mode = .safeStop || c.lastMsg.mode = .degraded ||
      c.lastMsg.mode = .localizationLost then
    .failure
  else
    match c.lastMsg.zone with
    | .clear => .success
    | .warning => if allowWarning.getD true then .success else .failure
    | .protective => if allowProtective.getD false then .success else .failure
    | .emergency => .failure
    | .other _ => .failure

def component : Component IsSafeCondition Event (Option NodeStatus) where
  next c
    | .safetyState msg => c.onSafetyState msg
    | .tick _ _ => c
  output c
    | .safetyState _ => none
    | .tick allowWarning allowProtective => some (c.tick allowWarning allowProtective)

/-- A zone in which the ports permit to move. -/
def ZonePermitted (allowWarning allowProtective : Option Bool) (zone : SafetyZone) : Prop :=
  zone = .clear ∨ zone = .warning ∧ allowWarning.getD true = true ∨
    zone = .protective ∧ allowProtective.getD false = true

variable {c} in
/-- A tick succeeds on a message without a fault or a stop, in a mode and a zone that permit to
move. -/
theorem tick_eq_success_iff {allowWarning allowProtective : Option Bool} :
    c.tick allowWarning allowProtective = .success ↔
      c.haveMsg = true ∧ c.lastMsg.faultLatched = false ∧
        c.lastMsg.safeStopRequested = false ∧
        (c.lastMsg.mode ≠ .safeStop ∧ c.lastMsg.mode ≠ .degraded ∧
          c.lastMsg.mode ≠ .localizationLost) ∧
        ZonePermitted allowWarning allowProtective c.lastMsg.zone := by
  unfold tick ZonePermitted
  cases c.haveMsg with
  | false => simp
  | true =>
      cases c.lastMsg.faultLatched with
      | true => simp
      | false =>
          cases c.lastMsg.safeStopRequested with
          | true => simp
          | false =>
              cases c.lastMsg.mode <;> cases c.lastMsg.zone <;> simp

end IsSafeCondition

end SafetyCore
