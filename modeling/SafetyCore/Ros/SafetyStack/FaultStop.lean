import SafetyCore.Ros.DriveBridge.CommandGate
import SafetyCore.Ros.SafetyStack
import SafetyCore.Ros.SupervisorNode.FaultLatch

/-!
# A fault stops the stack

Once the supervisor has latched a fault, every state message it publishes says so, until the
fault is cleared. So as soon as the drive bridge has read one of these messages it publishes only
zero, and as soon as the condition has read one it fails: whatever else is delivered, in which
order and with which losses.
-/

namespace SafetyCore

open Arithmetic Transition

namespace SafetyStack

variable {α : Type} [Zero α] [Add α] [Sub α] [Mul α] [Div α] [Neg α] [OfScientific α]
  [NatCast α] [IntCast α] [LT α] [DecidableLT α] [LE α] [DecidableLE α] [FiniteTest α]
  [SquareRoot α] [Trigonometry α] [Casts α]

/-! ## The supervisor -/

/-- The step is no call of the service that clears a fault. -/
def KeepsFault (_ : State α) (ev : Event α) : Prop := ev ≠ .input .supervisor .clearFault

variable {p : Params α} {s : State α} {ev : Event α}

/-- The callbacks of the topics are other events than those from outside. -/
theorem eq_input_of_external {i : NodeId} {e : NodeEvent α i}
    (h : (network p).reads s ev = some ⟨i, e⟩) (hext : external i e = true) :
    ev = .input i e := by
  rcases Network.reads_eq_some_iff.1 h with ⟨rfl, -⟩ | ⟨k, c, m, -, -, hacc⟩
  · rfl
  · change (if _ then callback i m c else none) = _ at hacc
    split at hacc
    next => cases i <;> cases m <;> cases hacc <;> cases hext
    next => cases hacc

/-- The supervisor clears its fault only when the service is called. -/
theorem ne_clearFault_of_reads {e : SafetySupervisorNode.Event}
    (h : (network p).reads s ev = some ⟨.supervisor, e⟩) (hev : KeepsFault s ev) :
    e ≠ .clearFault := by
  rintro rfl
  exact hev (eq_input_of_external h rfl)

def FaultLatched (s : State α) : Prop := (s.nodes .supervisor).machine.latchedFault = true

theorem faultLatched_step (hev : KeepsFault s ev) (h : FaultLatched s) :
    FaultLatched ((network p).step s ev) := by
  rcases (network p).nodes_step_cases s ev .supervisor with hkeep | ⟨e, hr, hnext⟩
  · rw [FaultLatched, hkeep]
    exact h
  · rw [FaultLatched, hnext]
    exact (SafetySupervisorNode.keepsStop_next p.supervisor _
      (ne_clearFault_of_reads hr hev)).latched h

/-- The three messages of a tick, from the node that the tick leaves, except for the mode, which is
the one it began with. -/
theorem published_tick (s : State α) (now nowLocalization nowHealth : UInt64)
    (order : List String) :
    let ev : Event α := .input .supervisor (.timerTick now nowLocalization nowHealth order)
    let n : SafetySupervisorNode α := ((network p).step s ev).nodes .supervisor
    let mode := (s.nodes .supervisor).machine.mode
    (network p).published s ev =
      [.recoverySpeedLimit n.speedCtrl.currentLimitMps, .state (n.buildStateMsg mode),
        .safeStop (n.safeStopRequested || mode = .safeStop)] := by
  dsimp only
  rw [Network.published_of_reads (Network.reads_input rfl),
    Network.nodes_step_self (Network.reads_input rfl)]
  rfl

/-- The node that publishes on a topic. -/
def Topic.sender : Topic → NodeId
  | .sensorHealth => .monitor
  | .envelopeStatus => .envelope
  | _ => .supervisor

omit [Zero α] [Add α] [Sub α] [Mul α] [Div α] [Neg α] [OfScientific α] [NatCast α] [IntCast α]
  [LT α] [DecidableLT α] [LE α] [DecidableLE α] [FiniteTest α] [SquareRoot α] [Trigonometry α]
  [Casts α] in
theorem eq_sender_of_mem_publish {i : NodeId} {out : NodeOutput α i} {m : Message α}
    (h : m ∈ publish i out) : i = m.topic.sender := by
  cases i with
  | monitor =>
      obtain ⟨published, -, hsome⟩ := List.mem_filterMap.1 h
      cases published <;> cases hsome
      rfl
  | envelope =>
      obtain ⟨status, -, rfl⟩ := Option.map_eq_some_iff.1 (Option.mem_toList.1 h)
      rfl
  | supervisor =>
      cases out with
      | tick recoverySpeedLimit state safeStop =>
          simp only [publish, List.mem_cons, List.not_mem_nil, or_false] at h
          rcases h with rfl | rfl | rfl <;> rfl
      | _ => cases h
  | bridge => cases h
  | isSafe => cases h

/-- A message is published by an event of its sender that comes from outside. -/
theorem exists_input_of_published {m : Message α} {j : ℕ}
    (h : ((network p).published s ev)[j]? = some m) {i : NodeId} (hi : m.topic.sender = i) :
    ∃ e : NodeEvent α i, ev = .input i e ∧
      (publish i ((nodeComponent p i).output (s.nodes i) e))[j]? = some m := by
  cases hr : (network p).reads s ev with
  | none =>
      rw [Network.published, Network.emits, hr] at h
      cases h
  | some r =>
      obtain ⟨i', e⟩ := r
      rw [Network.published_of_reads hr] at h
      obtain rfl : i' = i := (eq_sender_of_mem_publish (List.mem_of_getElem? h)).trans hi
      refine ⟨e, ?_, h⟩
      rcases Network.reads_eq_some_iff.1 hr with ⟨rfl, -⟩ | ⟨k, c, m', -, -, hacc⟩
      · rfl
      · -- the callbacks of the topics publish nothing
        change (if _ then callback i' m' c else none) = _ at hacc
        split at hacc
        next =>
          cases i' with
          | supervisor => cases m' <;> cases hacc <;> cases h
          | bridge | isSafe => cases h
          | monitor | envelope => cases m' <;> cases hacc
        next => cases hacc

/-- What the supervisor publishes is published by a tick. -/
theorem exists_tick_of_mem {m : Message α} (h : m ∈ (network p).published s ev)
    (hsender : m.topic.sender = .supervisor) :
    ∃ now nowLocalization nowHealth order,
      ev = .input .supervisor (.timerTick now nowLocalization nowHealth order) := by
  obtain ⟨j, hj⟩ := List.getElem?_of_mem h
  obtain ⟨e, rfl, hpublish⟩ := exists_input_of_published hj hsender
  cases e with
  | timerTick now nowLocalization nowHealth order => exact ⟨_, _, _, _, rfl⟩
  | clearFault =>
      change (publish .supervisor (SafetySupervisorNode.onClearFault _).2)[j]? = _ at hpublish
      unfold SafetySupervisorNode.onClearFault at hpublish
      dsimp only at hpublish
      split at hpublish <;> cases hpublish
  | _ => cases hpublish

/-- A state message is published by a tick of the supervisor. -/
theorem exists_tick_of_state_mem {msg : SafetyState}
    (h : Message.state msg ∈ (network p).published s ev) :
    ∃ now nowLocalization nowHealth order,
      ev = .input .supervisor (.timerTick now nowLocalization nowHealth order) ∧
        msg = (((network p).step s ev).nodes .supervisor).buildStateMsg
          (s.nodes .supervisor).machine.mode := by
  obtain ⟨now, nowLocalization, nowHealth, order, rfl⟩ :=
    exists_tick_of_mem h rfl
  refine ⟨now, nowLocalization, nowHealth, order, rfl, ?_⟩
  rw [published_tick] at h
  simpa using h

/-- A step that leaves a latched fault publishes only state messages that say so. -/
theorem state_of_faultLatched (h : FaultLatched ((network p).step s ev)) :
    ∀ m ∈ (network p).published s ev, (network p).topic m = .state →
      ∃ msg, m = .state msg ∧ msg.faultLatched = true := by
  intro m hm htopic
  cases m with
  | state msg =>
      obtain ⟨_, _, _, _, -, hmsg⟩ := exists_tick_of_state_mem hm
      refine ⟨msg, rfl, ?_⟩
      rw [hmsg]
      exact h
  | _ => cases htopic

theorem along_keepsFault {fs : List (Event α)}
    (hfs : ∀ ev ∈ fs, ev ≠ .input .supervisor .clearFault) (s : State α) :
    (network p).component.Along KeepsFault s fs :=
  Component.Preserved.along_of_mem (I := fun _ => True) (fun _ _ _ => trivial) trivial
    fun _ ev hev _ => hfs ev hev

/-! ## The readers -/

/-- The flag of a state message. -/
def Message.faultLatched : Message α → Bool
  | .state msg => msg.faultLatched
  | _ => false

def Message.safeStopData : Message α → Bool
  | .safeStop data => data
  | _ => false

section Bridge

variable (p : Params α) (monitor : SensorMonitorNode α) (envelope : SafetyEnvelopeNode α)
  (evs : List (Event α))

/-- A part of the bridge that only the messages of one topic write holds what the one it has read
last has written. -/
theorem bridge_eq_last {β : Type*} (part : SafetyDriveBridgeNode α → β)
    (data : SafetyDriveBridgeNode.Event α → Option β) (value : Message α → β) (t : Topic)
    (hpart : ∀ n e,
      part ((SafetyDriveBridgeNode.component p.bridge).next n e) = (data e).getD (part n))
    (hext : ∀ e : SafetyDriveBridgeNode.Event α, external .bridge e = true → data e = none)
    (hread : ∀ m c e, callback (α := α) .bridge m c = some e →
      data e = if m.topic = t then some (value m) else none) :
    part ((stateAfter p monitor envelope evs).nodes .bridge) =
      (((stateAfter p monitor envelope evs).last (.bridge, t)).map fun q => value q.2).getD
        (part SafetyDriveBridgeNode.initial) := by
  refine Network.run_eq_last (N := network p) (i := .bridge) (t := t) part value ?_ ?_ rfl evs
  · intro n e he
    refine (hpart n e).trans ?_
    rw [hext e he]
    rfl
  · intro n m c e hacc
    change (if _ then callback .bridge m c else none) = _ at hacc
    refine (hpart n e).trans ?_
    split at hacc
    next =>
      rw [hread m c e hacc]
      change _ = if m.topic = t then _ else _
      split <;> rfl
    next => cases hacc

/-- The bridge holds the flag of the state message it has read last. -/
theorem bridge_faultLatched :
    ((stateAfter p monitor envelope evs).nodes .bridge).faultLatched =
      (((stateAfter p monitor envelope evs).last (.bridge, .state)).map fun q =>
        q.2.faultLatched).getD false := by
  refine bridge_eq_last p monitor envelope evs (fun n => SafetyDriveBridgeNode.faultLatched n)
    SafetyDriveBridgeNode.Event.faultData Message.faultLatched .state ?_ ?_ ?_
  · intro n e
    obtain ⟨_, _, _, h⟩ := SafetyDriveBridgeNode.next_eq p.bridge n e
    rw [h]
  · intro e he
    cases e with
    | state => cases he
    | _ => rfl
  · intro m c e hacc
    cases m <;> cases hacc <;> rfl

/-- The stop that the bridge holds is the one it has read last. -/
theorem bridge_safeStopActive :
    ((stateAfter p monitor envelope evs).nodes .bridge).safeStopActive =
      (((stateAfter p monitor envelope evs).last (.bridge, .safeStop)).map fun q =>
        q.2.safeStopData).getD false := by
  refine bridge_eq_last p monitor envelope evs (fun n => SafetyDriveBridgeNode.safeStopActive n)
    SafetyDriveBridgeNode.Event.safeStopData Message.safeStopData .safeStop ?_ ?_ ?_
  · intro n e
    obtain ⟨_, _, _, h⟩ := SafetyDriveBridgeNode.next_eq p.bridge n e
    rw [h]
  · intro e he
    cases e with
    | safeStop => cases he
    | _ => rfl
  · intro m c e hacc
    cases m <;> cases hacc <;> rfl

end Bridge

/-- The condition after it has read a message. -/
def Message.lastMsg : Message α → IsSafeCondition
  | .state msg => { lastMsg := msg, haveMsg := true }
  | _ => IsSafeCondition.initial

theorem isSafe_eq_last (p : Params α) (monitor : SensorMonitorNode α)
    (envelope : SafetyEnvelopeNode α) (evs : List (Event α)) :
    (stateAfter p monitor envelope evs).nodes .isSafe =
      (((stateAfter p monitor envelope evs).last (.isSafe, .state)).map fun q =>
        q.2.lastMsg).getD IsSafeCondition.initial := by
  refine Network.run_eq_last (N := network p) (i := .isSafe) (t := .state)
    (fun n => n) Message.lastMsg ?_ ?_ rfl evs
  · intro n e hext
    cases e with
    | safetyState => cases hext
    | tick => rfl
  · intro n m c e hacc
    change (if _ then callback .isSafe m c else none) = _ at hacc
    split at hacc
    next =>
      cases m <;> cases hacc
      rfl
    next => cases hacc

/-! ## The stop -/

section Stop

variable {monitor : SensorMonitorNode α} {envelope : SafetyEnvelopeNode α}
  {es fs : List (Event α)}

/-- After a state message published under a latched fault, a reader of the topic has read one
that says so last. -/
theorem last_of_faultLatched (hfault : FaultLatched (stateAfter p monitor envelope es))
    (hfs : ∀ ev ∈ fs, ev ≠ .input .supervisor .clearFault) {i : NodeId} {k : ℕ} {m : Message α}
    (hread : (stateAfter p monitor envelope (es ++ fs)).last (i, .state) = some (k, m))
    (hk : (stateAfter p monitor envelope es).log.length ≤ k) :
    ∃ msg, m = .state msg ∧ msg.faultLatched = true := by
  rw [stateAfter_append] at hread
  exact Network.Along.last (fun _ _ hev h => faultLatched_step hev h)
    (fun _ _ hev h => state_of_faultLatched (faultLatched_step hev h))
    (coherent_stateAfter p monitor envelope es) hfault (along_keepsFault hfs _) hread hk

/-- The same for the step that latches the fault. -/
theorem last_of_latches
    (hfault : FaultLatched ((network p).step (stateAfter p monitor envelope es) ev))
    (hfs : ∀ ev ∈ fs, ev ≠ .input .supervisor .clearFault) {i : NodeId} {k : ℕ} {m : Message α}
    (hread : (stateAfter p monitor envelope (es ++ ev :: fs)).last (i, .state) = some (k, m))
    (hk : (stateAfter p monitor envelope es).log.length ≤ k) :
    ∃ msg, m = .state msg ∧ msg.faultLatched = true := by
  rw [stateAfter_append] at hread
  exact Network.Along.last_cons (fun _ _ hev h => faultLatched_step hev h)
    (fun _ _ hev h => state_of_faultLatched (faultLatched_step hev h))
    (coherent_stateAfter p monitor envelope es) hfault (state_of_faultLatched hfault)
    (along_keepsFault hfs _) hread hk

/-- A bridge that has read a state message with a latched fault last publishes zero. -/
theorem controlTick_of_last {k : ℕ} {msg : SafetyState}
    (hread : (stateAfter p monitor envelope es).last (.bridge, .state) =
      some (k, .state msg)) (hmsg : msg.faultLatched = true) (now : UInt64) :
    (((stateAfter p monitor envelope es).nodes .bridge).controlTick p.bridge now).2 =
      ⟨0, 0⟩ := by
  have hlatched : ((stateAfter p monitor envelope es).nodes .bridge).faultLatched = true := by
    rw [bridge_faultLatched, hread]
    exact hmsg
  unfold SafetyDriveBridgeNode.controlTick
  rw [if_pos hlatched]
  rfl

/-- A condition that has read a state message last ticks on it. -/
theorem isSafe_of_last {k : ℕ} {msg : SafetyState}
    (hread : (stateAfter p monitor envelope es).last (.isSafe, .state) =
      some (k, .state msg)) :
    (stateAfter p monitor envelope es).nodes .isSafe = { lastMsg := msg, haveMsg := true } := by
  rw [isSafe_eq_last, hread]
  rfl

end Stop

/-- Take a run after which the supervisor has latched a fault, and any continuation without a
call of the service that clears it. As soon as the bridge has read a state message that was
published in the continuation, every control tick publishes zero; as soon as the condition of the
behavior tree has read one, every tick of it fails. -/
theorem fault_stops_stack (p : Params α) (monitor : SensorMonitorNode α)
    (envelope : SafetyEnvelopeNode α) (es fs : List (Event α))
    (hfault : FaultLatched (stateAfter p monitor envelope es))
    (hfs : ∀ ev ∈ fs, ev ≠ .input .supervisor .clearFault) :
    let s := stateAfter p monitor envelope es
    let s' := stateAfter p monitor envelope (es ++ fs)
    (∀ k m, s'.last (.bridge, .state) = some (k, m) → s.log.length ≤ k →
      ∀ now, ((s'.nodes .bridge).controlTick p.bridge now).2 = ⟨0, 0⟩) ∧
    (∀ k m, s'.last (.isSafe, .state) = some (k, m) → s.log.length ≤ k →
      ∀ allowWarning allowProtective,
        (s'.nodes .isSafe).tick allowWarning allowProtective = .failure) := by
  dsimp only
  constructor
  · intro k m hread hk now
    obtain ⟨msg, rfl, hmsg⟩ := last_of_faultLatched hfault hfs hread hk
    exact controlTick_of_last hread hmsg now
  · intro k m hread hk allowWarning allowProtective
    obtain ⟨msg, rfl, hmsg⟩ := last_of_faultLatched hfault hfs hread hk
    rw [isSafe_of_last hread]
    unfold IsSafeCondition.tick
    simp [hmsg]

/-- A clock that runs backwards between two ticks latches a fault. -/
theorem fault_stops_stack_regression :
    let es : List (Event ℝ) :=
      [.input .supervisor (.timerTick 2 2 2 []), .input .supervisor (.timerTick 1 1 1 [])]
    let fs : List (Event ℝ) :=
      [.input .supervisor (.timerTick 1 1 1 []), .deliver .bridge 7 (0, 0)]
    (((stateAfter bringup bringupMonitor bringupEnvelope (es ++ fs)).nodes .bridge).controlTick
      bringup.bridge 5).2 = ⟨0, 0⟩ := by
  refine (fault_stops_stack bringup bringupMonitor bringupEnvelope _ _ ?_ ?_).1 7 _ rfl ?_ 5
  · rfl
  · intro ev hev
    rcases List.mem_cons.1 hev with rfl | hev
    · simp
    · rw [List.mem_singleton.1 hev]
      simp
  · exact (by decide : 6 ≤ 7)

end SafetyStack

end SafetyCore
