import Mathlib.Tactic.NormNum
import SafetyCore.Safety.Supervisor
import SafetyCore.Transition.Component

/-!
# Escalation

The supervisor wired to a machine, driven by its four entry points. A call is critical
if its arguments, together with the clock sample before it, call for a stop;
`criticalCode` says so and names the fault code. Critical calls latch a fault, and the
other ones do no more than request `Degraded`, which the machine grants only as long as
nothing is latched.
-/

namespace SafetyCore

open Transition

namespace SafetySupervisor

/-- The entry points of the supervisor with their arguments. -/
inductive Call
  | observeClockSample (nowNs : UInt64)
  | observeLocalizationAge (localizationAgeNs localizationTimeoutNs : UInt64)
  | observeTransportDropCount
      (droppedSinceLastSample warningThreshold criticalThreshold : UInt64)
  | processMonitorEvent (event : MonitorEvent)
  deriving DecidableEq, Repr

/-- A supervisor that holds a pointer to a machine. -/
structure Wired where
  supervisor : SafetySupervisor := {}
  machine : ModeStateMachine
  deriving DecidableEq, Repr

namespace Wired

variable (s : Wired)

/-- The machine that an entry point returns, and its result. -/
def settle (r : Option ModeStateMachine × Result) : Wired × Result :=
  ({ s with machine := r.1.getD s.machine }, r.2)

def call : Call → Wired × Result
  | .observeClockSample nowNs =>
      let r := s.supervisor.observeClockSample (some s.machine) nowNs
      ({ s with supervisor := r.1 } : Wired).settle r.2
  | .observeLocalizationAge age timeout =>
      s.settle (SafetySupervisor.observeLocalizationAge (some s.machine) age timeout)
  | .observeTransportDropCount dropped warningThreshold criticalThreshold =>
      s.settle (SafetySupervisor.observeTransportDropCount (some s.machine) dropped
        warningThreshold criticalThreshold)
  | .processMonitorEvent event =>
      s.settle (SafetySupervisor.processMonitorEvent (some s.machine) event)

end Wired

/-- The supervisor driven by the calls of its entry points. -/
def component : Component Wired Call Result where
  next s c := (s.call c).1
  output s c := (s.call c).2

/-! ## Critical calls -/

namespace Call

def clockSample : Call → Option UInt64
  | .observeClockSample nowNs => some nowNs
  | _ => none

/-- Twice the timeout of the call fits into 64 bits. -/
def TimeoutInRange : Call → Prop
  | .observeLocalizationAge _ timeout => timeout.toNat < 2 ^ 63
  | _ => True

/-- The fault code of a call that is critical after the clock sample `previous`. -/
def criticalCode (previous : Option UInt64) : Call → Option UInt16
  | .observeClockSample nowNs =>
      if ∃ last, previous = some last ∧ nowNs < last then
        some kFaultCodeClockRegression
      else none
  | .observeLocalizationAge age timeout =>
      if 0 < timeout.toNat ∧ 2 * timeout.toNat ≤ age.toNat then
        some kFaultCodeLocalizationLost
      else none
  | .observeTransportDropCount dropped _ criticalThreshold =>
      if 0 < criticalThreshold ∧ criticalThreshold ≤ dropped then
        some kFaultCodeTransportDrop
      else none
  | .processMonitorEvent event =>
      if event.severity = .critical then some event.code else none

end Call

/-- The clock sample that a call after `cs` is compared with. -/
def previousSample (cs : List Call) : Option UInt64 := lastValue Call.clockSample cs

/-- The fault codes of the critical calls among `cs`, in order, where the calls `past`
were made before. -/
def criticalCodes (past : List Call) : List Call → List UInt16
  | [] => []
  | c :: cs => (c.criticalCode (previousSample past)).toList ++ criticalCodes (past ++ [c]) cs

theorem criticalCodes_append (past cs ds : List Call) :
    criticalCodes past (cs ++ ds) =
      criticalCodes past cs ++ criticalCodes (past ++ cs) ds := by
  induction cs generalizing past with
  | nil => simp [criticalCodes]
  | cons c cs ih => simp [criticalCodes, ih]

theorem criticalCodes_concat (cs : List Call) (c : Call) :
    criticalCodes [] (cs ++ [c]) =
      criticalCodes [] cs ++ (c.criticalCode (previousSample cs)).toList := by
  simp [criticalCodes_append, criticalCodes]

/-! ## One call -/

/-- The clock sample that the next one is compared with. -/
def lastSample (s : SafetySupervisor) : Option UInt64 :=
  if s.hasClockSample then some s.lastClockNs else none

section Step

variable {s : Wired} {c : Call}

theorem call_lastSample :
    (s.call c).1.supervisor.lastSample = c.clockSample.or s.supervisor.lastSample := by
  cases c with
  | observeClockSample nowNs =>
      simp only [Wired.call, Wired.settle, observeClockSample]
      split
      · rfl
      · split <;> simp_all [lastSample, Call.clockSample]
  | _ => rfl

/-- The fault `code` is latched and reported; without a code, no more than `Degraded` is
requested. -/
def Escalates (m : ModeStateMachine) :
    Option UInt16 → Option ModeStateMachine × Result → Prop
  | some code, r => r = (some (m.latchFault code).1, .fault "fault latched")
  | none, r => r.1 = some m ∨ r.1 = some (m.transitionTo .degraded).1

theorem escalates_processMonitorEvent (m : ModeStateMachine) (event : MonitorEvent) :
    Escalates m (if event.severity = .critical then some event.code else none)
      (SafetySupervisor.processMonitorEvent (some m) event) := by
  unfold SafetySupervisor.processMonitorEvent
  cases hs : event.severity with
  | critical => rfl
  | degraded => exact .inr (escalateDegraded_fst m event)
  | _ => exact .inl rfl

theorem escalates_observeClockSample (s : SafetySupervisor) (m : ModeStateMachine)
    (nowNs : UInt64) :
    Escalates m ((Call.observeClockSample nowNs).criticalCode s.lastSample)
      (s.observeClockSample (some m) nowNs).2 := by
  unfold SafetySupervisor.observeClockSample
  by_cases hs : s.hasClockSample = true
  · by_cases hlt : nowNs < s.lastClockNs
    · simpa [Call.criticalCode, lastSample, hs, hlt] using
        escalates_processMonitorEvent m
          { type := .clockRegression
            severity := .critical
            code := kFaultCodeClockRegression
            detail := "clock moved backwards" }
    · simp [Call.criticalCode, lastSample, hs, hlt, Escalates]
  · simp [Call.criticalCode, lastSample, hs, Escalates]

theorem escalates_observeLocalizationAge (m : ModeStateMachine) (age timeout : UInt64)
    (h : timeout.toNat < 2 ^ 63) (previous : Option UInt64) :
    Escalates m ((Call.observeLocalizationAge age timeout).criticalCode previous)
      (SafetySupervisor.observeLocalizationAge (some m) age timeout) := by
  have hdouble : (2 * timeout).toNat = 2 * timeout.toNat := by
    have htwo : (2 : UInt64).toNat = 2 := rfl
    rw [UInt64.toNat_mul, htwo, Nat.mod_eq_of_lt (by omega)]
  have hzero : timeout = 0 ↔ timeout.toNat = 0 := UInt64.toNat_inj.symm
  unfold SafetySupervisor.observeLocalizationAge
  simp only [Call.criticalCode, hzero, UInt64.le_iff_toNat_le, hdouble, ge_iff_le,
    Bool.or_eq_true, decide_eq_true_eq]
  by_cases hfresh : timeout.toNat = 0 ∨ age.toNat ≤ timeout.toNat
  · have hnot : ¬ (0 < timeout.toNat ∧ 2 * timeout.toNat ≤ age.toNat) := by omega
    simp [hfresh, hnot, Escalates]
  · rw [if_neg hfresh]
    by_cases hcrit : 2 * timeout.toNat ≤ age.toNat
    · have hpos : 0 < timeout.toNat := by omega
      simpa [hpos, hcrit] using
        escalates_processMonitorEvent m
          { type := .localizationStale
            severity := .critical
            code := kFaultCodeLocalizationLost
            detail := "localization age exceeded timeout" }
    · simpa [hcrit] using
        escalates_processMonitorEvent m
          { type := .localizationStale
            severity := .degraded
            code := kFaultCodeLocalizationLost
            detail := "localization age exceeded timeout" }

theorem escalates_observeTransportDropCount (m : ModeStateMachine)
    (dropped warningThreshold criticalThreshold : UInt64) (previous : Option UInt64) :
    Escalates m
      ((Call.observeTransportDropCount dropped warningThreshold
        criticalThreshold).criticalCode previous)
      (SafetySupervisor.observeTransportDropCount (some m) dropped warningThreshold
        criticalThreshold) := by
  unfold SafetySupervisor.observeTransportDropCount
  by_cases hcrit : 0 < criticalThreshold ∧ criticalThreshold ≤ dropped
  · simpa [Call.criticalCode, hcrit] using
      escalates_processMonitorEvent m
        { type := .diagnosticDrop
          severity := .critical
          code := kFaultCodeTransportDrop
          detail := "diagnostic drop critical threshold exceeded" }
  · have hcode : (Call.observeTransportDropCount dropped warningThreshold
        criticalThreshold).criticalCode previous = none := if_neg hcrit
    rw [hcode, if_neg (by simpa using hcrit)]
    split
    · exact escalates_processMonitorEvent m
        { type := .diagnosticDrop
          severity := .warning
          code := kFaultCodeTransportDrop
          detail := "diagnostic drop warning threshold exceeded" }
    · exact .inl rfl

/-- What a call can do: it latches and reports the fault of its code, or requests no more
than `Degraded`. -/
theorem call_cases (hc : c.TimeoutInRange) :
    (∃ code, c.criticalCode s.supervisor.lastSample = some code ∧
        (s.call c).1.machine = (s.machine.latchFault code).1 ∧
        (s.call c).2 = .fault "fault latched") ∨
      (c.criticalCode s.supervisor.lastSample = none ∧
        ((s.call c).1.machine = s.machine ∨
          (s.call c).1.machine = (s.machine.transitionTo .degraded).1)) := by
  obtain ⟨r, hr, hmachine, hresult⟩ : ∃ r,
      Escalates s.machine (c.criticalCode s.supervisor.lastSample) r ∧
        (s.call c).1.machine = r.1.getD s.machine ∧ (s.call c).2 = r.2 := by
    cases c with
    | observeClockSample nowNs =>
        exact ⟨_, escalates_observeClockSample s.supervisor s.machine nowNs, rfl, rfl⟩
    | observeLocalizationAge age timeout =>
        exact ⟨_, escalates_observeLocalizationAge s.machine age timeout hc _, rfl, rfl⟩
    | observeTransportDropCount dropped warningThreshold criticalThreshold =>
        exact ⟨_, escalates_observeTransportDropCount s.machine dropped warningThreshold
          criticalThreshold _, rfl, rfl⟩
    | processMonitorEvent event =>
        exact ⟨_, escalates_processMonitorEvent s.machine event, rfl, rfl⟩
  rw [hmachine, hresult]
  cases hcode : c.criticalCode s.supervisor.lastSample with
  | some code =>
      rw [hcode] at hr
      cases hr
      exact .inl ⟨code, rfl, rfl, rfl⟩
  | none =>
      rw [hcode] at hr
      rcases hr with hr | hr
      · exact .inr ⟨rfl, .inl (by rw [hr]; rfl)⟩
      · exact .inr ⟨rfl, .inr (by rw [hr]; rfl)⟩

end Step

/-! ## Whole runs -/

/-- A call is critical among `cs`. -/
def ContainsCritical (cs : List Call) : Prop :=
  ∃ pre c post, cs = pre ++ c :: post ∧ c.criticalCode (previousSample pre) ≠ none

theorem criticalCodes_ne_nil_iff (cs : List Call) :
    criticalCodes [] cs ≠ [] ↔ ContainsCritical cs := by
  constructor
  · intro h
    induction cs using List.reverseRecOn with
    | nil => exact absurd rfl h
    | append_singleton cs c ih =>
        cases hc : c.criticalCode (previousSample cs) with
        | some code => exact ⟨cs, c, [], rfl, by simp [hc]⟩
        | none =>
            rw [criticalCodes_concat, hc, Option.toList_none, List.append_nil] at h
            obtain ⟨pre, d, post, rfl, hd⟩ := ih h
            exact ⟨pre, d, post ++ [c], by simp, hd⟩
  · rintro ⟨pre, c, post, rfl, hc⟩
    obtain ⟨code, hcode⟩ := Option.ne_none_iff_exists'.1 hc
    simp [criticalCodes_append, criticalCodes, hcode]

/-- The call latches a fault and returns `Fault`. -/
def Wired.LatchesFault (s : Wired) (c : Call) : Prop :=
  (s.call c).2.code = .fault ∧ (s.call c).1.machine.latchedFault = true ∧
    ∃ code, (s.call c).1.machine.calls = .latchFault code :: s.machine.calls

/-- What the calls `cs` have left behind. -/
structure Escalated (cs : List Call) (s : Wired) : Prop where
  sample : s.supervisor.lastSample = previousSample cs
  settled : s.machine.Settled
  latched : s.machine.latchedFault = true ↔ criticalCodes [] cs ≠ []
  code : ∀ code, (criticalCodes [] cs).getLast? = some code → s.machine.faultCode = code

namespace Escalated

variable {cs : List Call} {s : Wired}

theorem start {m : ModeStateMachine} (hl : m.latchedFault = false)
    (hm : m.mode ≠ .safeStop) : Escalated [] { machine := m } where
  sample := rfl
  settled := by simp [ModeStateMachine.Settled, hl, hm]
  latched := by simp [hl, criticalCodes]
  code := nofun

theorem next (h : Escalated cs s) {c : Call} (hc : c.TimeoutInRange) :
    Escalated (cs ++ [c]) (s.call c).1 := by
  have hsample : (s.call c).1.supervisor.lastSample = previousSample (cs ++ [c]) := by
    rw [call_lastSample, h.sample, previousSample, previousSample, lastValue_concat]
  have hcases := call_cases (s := s) hc
  rw [h.sample] at hcases
  rcases hcases with ⟨code, hcode, hmachine, -⟩ | ⟨hcode, hmachine | hmachine⟩
  · refine ⟨hsample, ?_, ?_, ?_⟩
    · rw [hmachine]
      exact ModeStateMachine.Settled.latchFault _ _
    · simp [hmachine, criticalCodes_concat, hcode]
    · intro last hlast
      simp only [criticalCodes_concat, hcode, Option.toList_some, List.getLast?_append,
        List.getLast?_singleton, Option.some_or, Option.some.injEq] at hlast
      rw [hmachine, ← hlast, ModeStateMachine.latchFault_faultCode]
  all_goals
    have hcodes : criticalCodes [] (cs ++ [c]) = criticalCodes [] cs := by
      simp [criticalCodes_concat, hcode]
  · refine ⟨hsample, ?_, ?_, ?_⟩ <;> rw [hmachine]
    · exact h.settled
    · rw [hcodes]
      exact h.latched
    · rw [hcodes]
      exact h.code
  · refine ⟨hsample, ?_, ?_, ?_⟩ <;> rw [hmachine]
    · exact h.settled.transitionTo (by decide)
    · rw [hcodes, ModeStateMachine.transitionTo_latchedFault]
      exact h.latched
    · rw [hcodes, ModeStateMachine.transitionTo_faultCode]
      exact h.code

theorem latchesFault_iff (h : Escalated cs s) {c : Call} (hc : c.TimeoutInRange) :
    s.LatchesFault c ↔ c.criticalCode (previousSample cs) ≠ none := by
  have hcases := call_cases (s := s) hc
  rw [h.sample] at hcases
  rcases hcases with ⟨code, hcode, hmachine, hresult⟩ | ⟨hcode, hmachine⟩
  · refine iff_of_true ⟨by rw [hresult]; rfl, by simp [hmachine], code, ?_⟩ (by simp [hcode])
    rw [hmachine, ModeStateMachine.latchFault_calls]
  · refine iff_of_false ?_ (by simp [hcode])
    rintro ⟨-, -, code, hcalls⟩
    rcases hmachine with hmachine | hmachine <;> rw [hmachine] at hcalls
    · exact List.cons_ne_self _ _ hcalls.symm
    · rw [ModeStateMachine.transitionTo_calls] at hcalls
      cases hcalls

/-- A call that is not critical changes the mode to `Degraded` only, along an edge of the
table, and only before the first critical call. -/
theorem mode_of_not_critical (h : Escalated cs s) {c : Call} (hc : c.TimeoutInRange)
    (hcode : c.criticalCode (previousSample cs) = none)
    (hmode : (s.call c).1.machine.mode ≠ s.machine.mode) :
    (s.call c).1.machine.mode = .degraded ∧ s.machine.mode.allowed .degraded = true ∧
      ¬ ContainsCritical cs := by
  have hcases := call_cases (s := s) hc
  rw [h.sample] at hcases
  rcases hcases with ⟨code, hcode', -⟩ | ⟨-, hmachine | hmachine⟩
  · cases hcode.symm.trans hcode'
  · exact absurd (by rw [hmachine]) hmode
  · have htarget : Mode.degraded ≠ .safeStop := by decide
    rw [hmachine, h.settled.transitionTo_mode htarget] at hmode ⊢
    split at hmode
    case isFalse => exact absurd rfl hmode
    case isTrue hallowed =>
      refine ⟨if_pos hallowed, hallowed, ?_⟩
      rw [← criticalCodes_ne_nil_iff, ← h.latched]
      intro hlatched
      rw [h.settled.1 hlatched] at hallowed
      exact absurd hallowed (by decide)

end Escalated

theorem escalated_run {m : ModeStateMachine} (hl : m.latchedFault = false)
    (hm : m.mode ≠ .safeStop) (cs : List Call) (hcs : ∀ c ∈ cs, c.TimeoutInRange) :
    Escalated cs (component.run { machine := m } cs) := by
  induction cs using List.reverseRecOn with
  | nil => exact .start hl hm
  | append_singleton cs c ih =>
      rw [Component.run_concat]
      have hpre := ih fun d hd => hcs d (List.mem_append_left _ hd)
      exact hpre.next (hcs c (by simp))

/-- For every sequence of calls on a supervisor wired to a machine that is neither latched
nor in the safe stop: the machine ends latched in the safe stop exactly if a call was
critical, with the code of the last critical call; exactly the critical calls latch a fault
and return `Fault`; and the other calls change the mode to `Degraded` only, where the table
allows it and nothing critical came before. -/
theorem escalation (m : ModeStateMachine) (hl : m.latchedFault = false)
    (hm : m.mode ≠ .safeStop) (cs : List Call) (hcs : ∀ c ∈ cs, c.TimeoutInRange) :
    let final := (component.run { machine := m } cs).machine
    (final.latchedFault = true ∧ final.mode = .safeStop ↔ ContainsCritical cs) ∧
      (∀ code, (criticalCodes [] cs).getLast? = some code → final.faultCode = code) ∧
      ∀ pre c post, cs = pre ++ c :: post →
        let s := component.run { machine := m } pre
        (s.LatchesFault c ↔ c.criticalCode (previousSample pre) ≠ none) ∧
          (c.criticalCode (previousSample pre) = none →
            (s.call c).1.machine.mode ≠ s.machine.mode →
            (s.call c).1.machine.mode = .degraded ∧ s.machine.mode.allowed .degraded = true ∧
              ¬ ContainsCritical pre) := by
  have hrun := escalated_run hl hm cs hcs
  refine ⟨?_, hrun.code, ?_⟩
  · rw [← criticalCodes_ne_nil_iff, ← hrun.latched, and_iff_left_iff_imp]
    exact hrun.settled.1
  · rintro pre c post rfl
    have hpre := escalated_run hl hm pre fun d hd => hcs d (List.mem_append_left _ hd)
    have hc : c.TimeoutInRange := hcs c (by simp)
    exact ⟨hpre.latchesFault_iff hc, hpre.mode_of_not_critical hc⟩

/-- The localization of a moving machine is late, and then the clock steps back. -/
def lateThenBack : List Call :=
  [.observeClockSample 7, .observeLocalizationAge 60 50, .observeClockSample 5]

theorem escalation_clock_regression :
    let final := (component.run { machine := { mode := .moving } } lateThenBack).machine
    (final.latchedFault = true ∧ final.mode = .safeStop ↔ ContainsCritical lateThenBack) ∧
      (∀ code, (criticalCodes [] lateThenBack).getLast? = some code →
        final.faultCode = code) ∧
      ∀ pre c post, lateThenBack = pre ++ c :: post →
        let s := component.run { machine := { mode := .moving } } pre
        (s.LatchesFault c ↔ c.criticalCode (previousSample pre) ≠ none) ∧
          (c.criticalCode (previousSample pre) = none →
            (s.call c).1.machine.mode ≠ s.machine.mode →
            (s.call c).1.machine.mode = .degraded ∧ s.machine.mode.allowed .degraded = true ∧
              ¬ ContainsCritical pre) :=
  escalation { mode := .moving } rfl (by decide) lateThenBack
    (by simp [lateThenBack, Call.TimeoutInRange])

end SafetySupervisor

end SafetyCore
