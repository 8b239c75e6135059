import SafetyCore.StateMachine.Machine
import SafetyCore.Transition.Component

/-!
# The notifications as an audit trail

A monitor attached from construction can try to follow the mode of the machine from
its notifications alone. `replay` is that monitor: it starts from `Init` and gives up
at a transition that does not start where it believes the machine to be.

Every change of the mode is notified except the one of `recover_localization`, so the
monitor is right until the first recovery and wrong right after it.
-/

namespace SafetyCore

open Transition

/-- The mode that a monitor believes in after one more notification. -/
def Mode.replay (mode : Mode) : Notification → Option Mode
  | .modeTransition prev target => if prev = mode then some target else none
  | .faultLatched _ => some .safeStop

/-- The mode that a monitor which started in `mode` believes in; `none` once a
notification contradicts the ones before it. -/
def replay (mode : Mode) (notifications : List Notification) : Option Mode :=
  notifications.foldlM Mode.replay mode

theorem replay_concat (mode : Mode) (ns : List Notification) (n : Notification) :
    replay mode (ns ++ [n]) = (replay mode ns).bind (·.replay n) := by
  simp [replay, List.foldlM_append]

namespace ModeStateMachine

/-- The machine driven by its operations. -/
def component : Component ModeStateMachine Op Result where
  next m op := (m.apply op).1
  output m op := (m.apply op).2

/-- The machine as constructed, with a monitor attached. -/
def monitored : ModeStateMachine := { monitor := some [] }

/-- Replaying the notifications received so far gives the mode of the machine. -/
def Trailed (m : ModeStateMachine) : Prop :=
  m.monitor.bind (replay .init) = some m.mode

instance (m : ModeStateMachine) : Decidable m.Trailed :=
  inferInstanceAs (Decidable (_ = _))

/-- The operation is a recovery that leaves `LocalizationLost`. -/
def Recovers (m : ModeStateMachine) (op : Op) : Prop :=
  op = .recoverLocalization ∧ m.mode = .localizationLost

section Steps

variable {m : ModeStateMachine}

theorem Trailed.congr {m' : ModeStateMachine} (h : m.Trailed)
    (hmonitor : m'.monitor = m.monitor) (hmode : m'.mode = m.mode) : m'.Trailed := by
  unfold Trailed
  rw [hmonitor, hmode]
  exact h

theorem notify_bind_replay (n : Notification) :
    (m.notify n).monitor.bind (replay .init) =
      (m.monitor.bind (replay .init)).bind (·.replay n) := by
  cases hm : m.monitor with
  | none => simp [notify, hm]
  | some ns => simp [notify, hm, replay_concat]

/-- A transition that is notified keeps the trail. -/
theorem Trailed.notifyTransition (h : m.Trailed) (target : Mode) :
    (({ m with mode := target } : ModeStateMachine).notifyTransition m.mode
      target).Trailed := by
  unfold ModeStateMachine.notifyTransition
  split
  case isTrue heq => exact h.congr rfl heq.symm
  case isFalse =>
    unfold Trailed
    rw [notify_bind_replay]
    have hm : m.monitor.bind (replay .init) = some m.mode := h
    simp [hm, Mode.replay, notify]

theorem Trailed.transitionTo (h : m.Trailed) (target : Mode) :
    (m.transitionTo target).1.Trailed := by
  have hrec : (m.record (.transitionTo target)).Trailed := h.congr rfl rfl
  unfold ModeStateMachine.transitionTo
  dsimp only
  split
  · exact hrec
  · split
    · exact hrec
    · exact hrec.notifyTransition target

theorem Trailed.latchFault (h : m.Trailed) (faultCode : UInt16) :
    (m.latchFault faultCode).1.Trailed := by
  have hm : m.monitor.bind (replay .init) = some m.mode := h
  unfold ModeStateMachine.latchFault Trailed notifyFault
  rw [notify_bind_replay]
  simp [record, notify, hm, Mode.replay]

theorem Trailed.clearFault (h : m.Trailed) : m.clearFault.1.Trailed := by
  have hrec : ({ m.record .clearFault with
      latchedFault := false, faultCode := 0 } : ModeStateMachine).Trailed := h.congr rfl rfl
  unfold ModeStateMachine.clearFault
  dsimp only
  split
  · exact h.congr rfl rfl
  · exact hrec.notifyTransition .idle

/-- One operation keeps the trail exactly if it is not a recovery from
`LocalizationLost`. -/
theorem trailed_apply_iff (h : m.Trailed) (op : Op) :
    (m.apply op).1.Trailed ↔ ¬ m.Recovers op := by
  cases op with
  | transitionTo target => simpa [Recovers, apply] using h.transitionTo target
  | latchFault faultCode => simpa [Recovers, apply] using h.latchFault faultCode
  | clearFault => simpa [Recovers, apply] using h.clearFault
  | recoverLocalization =>
      have hm : m.monitor.bind (replay .init) = some m.mode := h
      by_cases hlost : m.mode = .localizationLost
      · simp [Recovers, apply, recoverLocalization, Trailed, record, hlost, hm]
      · have hsame : (m.apply .recoverLocalization).1 = m.record .recoverLocalization := by
          simp [apply, recoverLocalization, hlost]
        rw [hsame]
        have hkept : (m.record .recoverLocalization).Trailed := h.congr rfl rfl
        simpa [Recovers, hlost] using hkept

end Steps

/-- For every sequence of operations on a machine with a monitor: the notifications
give the mode of the machine after every operation exactly if no operation is a
recovery from `LocalizationLost`. -/
theorem trailed_iff (ops : List Op) :
    component.Along (fun m op => (component.next m op).Trailed) monitored ops ↔
      component.Along (fun m op => ¬ m.Recovers op) monitored ops := by
  have hstart : monitored.Trailed := by decide
  exact Component.along_congr (I := Trailed) (fun _ op h => trailed_apply_iff h op)
    (fun _ _ _ hnext => hnext) hstart ops

/-- A localization is lost and recovered: the monitor still believes in
`LocalizationLost`. -/
theorem not_always_trailed :
    ¬ ∀ ops : List Op,
      component.Along (fun m op => (component.next m op).Trailed) monitored ops := by
  intro h
  have hrun := h [.transitionTo .idle, .transitionTo .moving, Op.reportLocalizationLost,
    .recoverLocalization]
  exact absurd hrun (by decide)

end ModeStateMachine

end SafetyCore
