import Mathlib.Tactic.Common

/-!
# Modes and the transition table

The eight modes of the state machine and `Mode.allowed`, the table of the edges
that `transition_to` accepts. The table always permits to stay in a mode.
-/

namespace SafetyCore

inductive Mode
  | init
  | idle
  | moving
  | degraded
  | avoidingObstacle
  | localizationLost
  | docking
  | safeStop
  deriving DecidableEq, Repr

namespace Mode

/-- `allowed(target)` for the mode `current` it has loaded. -/
def allowed (current target : Mode) : Bool :=
  if current = target then
    true
  else
    match current with
    | .init => target = .idle || target = .safeStop
    | .idle =>
        target = .moving || target = .degraded || target = .safeStop ||
          target = .docking
    | .moving =>
        target = .degraded || target = .avoidingObstacle ||
          target = .localizationLost || target = .safeStop || target = .docking
    | .degraded =>
        target = .moving || target = .avoidingObstacle ||
          target = .localizationLost || target = .safeStop || target = .docking
    | .avoidingObstacle =>
        target = .moving || target = .degraded || target = .safeStop
    | .localizationLost =>
        target = .degraded || target = .idle || target = .safeStop
    | .docking => target = .idle || target = .safeStop
    | .safeStop => target = .safeStop

@[simp] theorem allowed_self (m : Mode) : m.allowed m = true := by
  simp [allowed]

/-- Once entered, the safe stop is left by no edge of the table. -/
theorem safeStop_allowed_iff (target : Mode) :
    Mode.allowed .safeStop target = true ↔ target = .safeStop := by
  cases target <;> decide

end Mode

end SafetyCore
