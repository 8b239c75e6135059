import SafetyCore.StateMachine.Machine

/-!
# The safety supervisor

`SafetySupervisor` turns monitor events into operations of the mode state
machine: a degraded event requests `Degraded`, a critical one latches a fault.
The supervisor holds a pointer to the machine, so the functions here take the
machine and return it, `none` being the null pointer. Diagnostic events are
output only and are left out.
-/

namespace SafetyCore

inductive MonitorSeverity
  | none
  | warning
  | degraded
  | critical
  | unknown (raw : UInt8)
  deriving DecidableEq, Repr

inductive MonitorType
  | clockRegression
  | localizationStale
  | trajectoryEnvelope
  | diagnosticDrop
  | unknown (raw : UInt8)
  deriving DecidableEq, Repr

structure MonitorEvent where
  type : MonitorType := .clockRegression
  severity : MonitorSeverity := .none
  code : UInt16 := 0
  detail : String := ""
  deriving DecidableEq, Repr

structure SafetySupervisor where
  hasClockSample : Bool := false
  lastClockNs : UInt64 := 0
  deriving DecidableEq, Repr

namespace SafetySupervisor

def kFaultCodeClockRegression : UInt16 := 1001

def kFaultCodeLocalizationLost : UInt16 := 1002

def kFaultCodeTransportDrop : UInt16 := 1003

def escalateDegraded (machine : Option ModeStateMachine) (_event : MonitorEvent) :
    Option ModeStateMachine × Result :=
  match machine with
  | none => (none, .ok)
  | some m =>
      let (m, res) := m.transitionTo .degraded
      if !res.isOk && m.mode ≠ .degraded && m.mode ≠ .safeStop then
        (some m, .fault "failed to request degraded mode")
      else
        (some m, .ok)

def escalateCritical (machine : Option ModeStateMachine) (event : MonitorEvent) :
    Option ModeStateMachine × Result :=
  match machine with
  | none => (none, .fault "critical event without state machine")
  | some m =>
      let (m, res) := m.latchFault event.code
      if res.code ≠ .fault then
        (some m, .fault "critical escalation did not latch fault")
      else
        (some m, res)

def processMonitorEvent (machine : Option ModeStateMachine) (event : MonitorEvent) :
    Option ModeStateMachine × Result :=
  match event.severity with
  | .none => (machine, .ok)
  | .warning => (machine, .ok)
  | .degraded => escalateDegraded machine event
  | .critical => escalateCritical machine event
  | .unknown _ => (machine, .fault "unknown monitor severity")

def observeClockSample (s : SafetySupervisor) (machine : Option ModeStateMachine)
    (nowNs : UInt64) : SafetySupervisor × Option ModeStateMachine × Result :=
  if !s.hasClockSample then
    ({ s with hasClockSample := true, lastClockNs := nowNs }, machine, .ok)
  else if nowNs < s.lastClockNs then
    ({ s with lastClockNs := nowNs },
      processMonitorEvent machine
        { type := .clockRegression
          severity := .critical
          code := kFaultCodeClockRegression
          detail := "clock moved backwards" })
  else
    ({ s with lastClockNs := nowNs }, machine, .ok)

def observeLocalizationAge (machine : Option ModeStateMachine)
    (localizationAgeNs localizationTimeoutNs : UInt64) :
    Option ModeStateMachine × Result :=
  if localizationTimeoutNs = 0 || localizationAgeNs ≤ localizationTimeoutNs then
    (machine, .ok)
  else
    let severity : MonitorSeverity :=
      if localizationAgeNs ≥ 2 * localizationTimeoutNs then .critical else .degraded
    processMonitorEvent machine
      { type := .localizationStale
        severity := severity
        code := kFaultCodeLocalizationLost
        detail := "localization age exceeded timeout" }

def observeTransportDropCount (machine : Option ModeStateMachine)
    (droppedSinceLastSample warningThreshold criticalThreshold : UInt64) :
    Option ModeStateMachine × Result :=
  if criticalThreshold > 0 && droppedSinceLastSample ≥ criticalThreshold then
    processMonitorEvent machine
      { type := .diagnosticDrop
        severity := .critical
        code := kFaultCodeTransportDrop
        detail := "diagnostic drop critical threshold exceeded" }
  else if warningThreshold > 0 && droppedSinceLastSample ≥ warningThreshold then
    processMonitorEvent machine
      { type := .diagnosticDrop
        severity := .warning
        code := kFaultCodeTransportDrop
        detail := "diagnostic drop warning threshold exceeded" }
  else
    (machine, .ok)

/-! ## What the supervisor asks of a machine it is wired to -/

theorem escalateDegraded_fst (m : ModeStateMachine) (event : MonitorEvent) :
    (escalateDegraded (some m) event).1 = some (m.transitionTo .degraded).1 := by
  simp only [escalateDegraded]
  split <;> rfl

@[simp] theorem escalateCritical_some (m : ModeStateMachine) (event : MonitorEvent) :
    escalateCritical (some m) event =
      (some (m.latchFault event.code).1, (m.latchFault event.code).2) := rfl

/-- A stale localization asks for `Degraded` below twice the timeout and latches
fault 1002 from there on; the doubled timeout is a 64-bit product. -/
theorem observeLocalizationAge_fst (m : ModeStateMachine) (age timeout : UInt64) :
    (observeLocalizationAge (some m) age timeout).1 =
      some (if timeout = 0 ∨ age ≤ timeout then m
        else if 2 * timeout ≤ age then (m.latchFault kFaultCodeLocalizationLost).1
        else (m.transitionTo .degraded).1) := by
  unfold observeLocalizationAge
  by_cases hfresh : timeout = 0 ∨ age ≤ timeout
  · simp [hfresh]
  · by_cases hcrit : 2 * timeout ≤ age
    · simp [hfresh, hcrit, processMonitorEvent]
    · simp [hfresh, hcrit, processMonitorEvent, escalateDegraded_fst]

/-- A clock sample latches fault 1001 exactly when it lies before the last
one. -/
theorem observeClockSample_machine (s : SafetySupervisor) (m : ModeStateMachine)
    (nowNs : UInt64) :
    (s.observeClockSample (some m) nowNs).2.1 =
      some (if s.hasClockSample = true ∧ nowNs < s.lastClockNs then
        (m.latchFault kFaultCodeClockRegression).1 else m) := by
  unfold observeClockSample
  by_cases hs : s.hasClockSample = true
  · by_cases hlt : nowNs < s.lastClockNs
    · simp [hs, hlt, processMonitorEvent]
    · simp [hs, hlt]
  · simp [hs]

end SafetySupervisor

end SafetyCore
