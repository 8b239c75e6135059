import SafetyCore.Ros.SupervisorNode.Tick

/-!
# The state published by a tick

A tick reads the mode before its checks and the fault latch after them. In the
tick in which a check latches a fault it therefore publishes a latched fault
together with a mode that is not the safe stop. `published_consistent_iff` says
that this is the only inconsistency: the messages of a run are consistent
exactly when no tick that starts without a latched fault latches one.
-/

namespace SafetyCore

open Transition

namespace SafetySupervisorNode

/-- The state message and the stop message of a tick: a latched fault goes with
the safe stop, requested in both. -/
def Output.Consistent {α : Type*} : Output α → Prop
  | .tick _ state safeStop =>
      state.faultLatched = true →
        state.mode = .safeStop ∧ state.safeStopRequested = true ∧ safeStop = true
  | _ => True

section Runs

variable {α : Type*} [Zero α] [Add α] [Sub α] [Mul α] [Div α] [OfScientific α]
  [NatCast α] [LE α] (p : Params α)

/-- The step is a tick that starts without a latched fault and latches one. -/
def LatchesFault (n : SafetySupervisorNode α) (e : Event) : Prop :=
  ∃ now nowLocalization nowHealth order,
    e = .timerTick now nowLocalization nowHealth order ∧
      n.machine.latchedFault = false ∧
      LatchesInTick p n now nowLocalization nowHealth order

theorem timerTick_consistent_iff {n : SafetySupervisorNode α}
    (now nowLocalization nowHealth : UInt64) (order : List String)
    (h : n.machine.Settled) :
    (n.timerTick p now nowLocalization nowHealth order).2.Consistent ↔
      (n.machine.latchedFault = true ∨
        ¬ LatchesInTick p n now nowLocalization nowHealth order) := by
  have hlatched := timerTick_latchedFault p now nowLocalization nowHealth order h
  change ((n.timerTick p now nowLocalization nowHealth order).1.machine.latchedFault =
    true → n.machine.mode = .safeStop ∧ _ ∧ _) ↔ _
  rw [hlatched]
  constructor
  · intro hcons
    by_cases hl : n.machine.latchedFault = true
    · exact .inl hl
    · refine .inr fun hfault => hl ?_
      exact h.2 (hcons (.inr hfault)).1
  · intro hor hfault
    have hl : n.machine.latchedFault = true :=
      hor.elim id fun hnot => hfault.resolve_right hnot
    have hm : n.machine.mode = .safeStop := h.1 hl
    exact ⟨hm, by simp [buildStateMsg, hm], by simp [hm]⟩

/-- In every run, the messages published are consistent exactly when no tick that
starts without a latched fault latches one. -/
theorem published_consistent_iff (es : List Event) :
    (component p).Along (fun n e => ((component p).output n e).Consistent)
        (initial p) es ↔
      (component p).Along (fun n e => ¬ LatchesFault p n e) (initial p) es := by
  refine (settled_preserved p).along_congr (fun n e h => ?_) (settled_initial p) es
  cases e with
  | timerTick now nowLocalization nowHealth order =>
      change (n.timerTick p now nowLocalization nowHealth order).2.Consistent ↔ _
      rw [timerTick_consistent_iff p now nowLocalization nowHealth order h,
        LatchesFault]
      simp [imp_iff_not_or]
  | envelope | odom | sensorHealth => simp [component, Output.Consistent, LatchesFault]
  | clearFault =>
      refine iff_of_true ?_ ?_
      · unfold component onClearFault
        dsimp only
        split <;> trivial
      · simp [LatchesFault]

end Runs

/-- A robot that moves in a clear zone receives a sensor fault: the next tick
publishes a latched fault with the mode `Moving`. -/
theorem published_not_always_consistent :
    ¬ ∀ (p : Params ℚ) (es : List Event),
      (component p).Along (fun n e => ((component p).output n e).Consistent)
        (initial p) es := by
  intro h
  have hrun := h Params.default
    [.envelope 0, .sensorHealth "all" SensorHealth.fault 1 1, .timerTick 2 2 2 []]
  have hmode := hrun.2.2.1 (by decide +kernel)
  exact absurd hmode.1 (by decide +kernel)

end SafetySupervisorNode

end SafetyCore
