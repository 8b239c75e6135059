import SafetyCore.Ros.SafetyStack.EndToEnd

/-!
# When the bridge follows its stop profile

Every stop that the supervisor requests comes with a latched fault, and a tick publishes the fault
before the stop. Under a latched fault the bridge publishes zero, so it follows a stop profile
only while the topics are out of step: it has read the stop, but not the state of the same tick or
of a later one, or the fault was cleared since.
-/

namespace SafetyCore

open Arithmetic Transition

namespace SafetyStack

variable {α : Type} [Zero α] [Add α] [Sub α] [Mul α] [Div α] [Neg α] [OfScientific α]
  [NatCast α] [IntCast α] [LT α] [DecidableLT α] [LE α] [DecidableLE α] [FiniteTest α]
  [SquareRoot α] [Trigonometry α] [Casts α] {p : Params α} {monitor : SensorMonitorNode α}
  {envelope : SafetyEnvelopeNode α}

/-- The branch of `control_tick` that publishes the samples of the stop profile. -/
def FollowsProfile (n : SafetyDriveBridgeNode α) : Prop :=
  n.faultLatched = false ∧ n.safeStopActive = true

theorem safeStopHeld_stateAfter (p : Params α) (monitor : SensorMonitorNode α)
    (envelope : SafetyEnvelopeNode α) (es : List (Event α)) :
    SafetySupervisorNode.SafeStopHeld ((stateAfter p monitor envelope es).nodes .supervisor) :=
  (Network.preserved_lift (N := network p) (i := .supervisor)
    (SafetySupervisorNode.safeStopHeld_preserved p.supervisor)).run
    (SafetySupervisorNode.safeStopHeld_initial p.supervisor) es

/-- A tick that publishes a stop leaves a latched fault. -/
theorem faultLatched_of_safeStop {es : List (Event α)}
    {now nowLocalization nowHealth : UInt64} {order : List String} :
    let s := stateAfter p monitor envelope es
    let ev : Event α := .input .supervisor (.timerTick now nowLocalization nowHealth order)
    let n : SafetySupervisorNode α := ((network p).step s ev).nodes .supervisor
    (n.safeStopRequested || (s.nodes .supervisor).machine.mode = .safeStop) = true →
      FaultLatched ((network p).step s ev) := by
  intro s ev n h
  have hheld := safeStopHeld_stateAfter p monitor envelope es
  have hnext : SafetySupervisorNode.SafeStopHeld n := by
    have hstep := safeStopHeld_stateAfter p monitor envelope (es ++ [ev])
    rwa [stateAfter_append] at hstep
  rcases Bool.or_eq_true_iff.1 h with hrequested | hmode
  · exact hnext.settled.2 (hnext.requested hrequested)
  · exact faultLatched_step (by simp [KeepsFault, ev])
      (hheld.settled.2 (of_decide_eq_true hmode))

/-- The stop that the bridge has read last, with the state message of the same tick. -/
theorem exists_tick_of_safeStop {es : List (Event α)}
    (h : ((stateAfter p monitor envelope es).nodes .bridge).safeStopActive = true) :
    ∃ pre now nowLocalization nowHealth order post msg,
      es = pre ++ .input .supervisor (.timerTick now nowLocalization nowHealth order) :: post ∧
        (stateAfter p monitor envelope es).last (.bridge, .safeStop) =
          some ((stateAfter p monitor envelope pre).log.length + 2, .safeStop true) ∧
        (stateAfter p monitor envelope es).log[
          (stateAfter p monitor envelope pre).log.length + 1]? = some (.state msg) ∧
        msg.faultLatched = true ∧
        FaultLatched ((network p).step (stateAfter p monitor envelope pre)
          (.input .supervisor (.timerTick now nowLocalization nowHealth order))) := by
  rw [bridge_safeStopActive] at h
  cases hlast : (stateAfter p monitor envelope es).last (.bridge, .safeStop) with
  | none =>
      rw [hlast] at h
      cases h
  | some q =>
      obtain ⟨k, m⟩ := q
      rw [hlast] at h
      obtain ⟨hlog, htopic⟩ := coherent_stateAfter p monitor envelope es _ _ k m hlast
      cases m with
      | safeStop data =>
          obtain rfl : data = true := h
          obtain ⟨pre, ev, post, j, rfl, hpub, rfl⟩ :=
            Network.exists_published _ es hlog (Nat.zero_le k)
          obtain ⟨now, nowLocalization, nowHealth, order, rfl⟩ :=
            exists_tick_of_mem (List.mem_of_getElem? hpub) rfl
          have hmsgs := published_tick (p := p) (stateAfter p monitor envelope pre) now
            nowLocalization nowHealth order
          dsimp only at hmsgs
          change ((network p).published (stateAfter p monitor envelope pre) _)[j]? = _ at hpub
          have hstate := log_of_published post (j := 1) (by rw [hmsgs]; rfl)
          rw [hmsgs] at hpub
          -- the stop is the third message of the tick
          match j with
          | 0 => cases hpub
          | 1 => cases hpub
          | 2 =>
              have hfault := faultLatched_of_safeStop
                (Message.safeStop.inj (Option.some.inj hpub))
              exact ⟨pre, now, nowLocalization, nowHealth, order, post, _, rfl, rfl, hstate,
                hfault, hfault⟩
          | j + 3 => cases hpub
      | _ => cases htopic

/-- In every run: where the bridge follows its stop profile, the state message that was published
together with the stop it has read last says that a fault is latched, and the bridge has not read
that message or a later one, or the fault was cleared since. -/
theorem followsProfile_out_of_step (p : Params α) (monitor : SensorMonitorNode α)
    (envelope : SafetyEnvelopeNode α) (es : List (Event α))
    (h : FollowsProfile ((stateAfter p monitor envelope es).nodes .bridge)) :
    let s := stateAfter p monitor envelope es
    ∃ k msg, s.last (.bridge, .safeStop) = some (k + 1, .safeStop true) ∧
      s.log[k]? = some (.state msg) ∧ msg.faultLatched = true ∧
      ((∀ q ∈ s.last (.bridge, .state), q.1 < k) ∨
        ∃ pre post, es = pre ++ .input .supervisor .clearFault :: post ∧
          k + 1 < (stateAfter p monitor envelope pre).log.length) := by
  intro s
  obtain ⟨hnot, hstop⟩ := h
  obtain ⟨pre, now, nowLocalization, nowHealth, order, post, msg, rfl, hlast, hstate, hmsg,
    hfault⟩ := exists_tick_of_safeStop hstop
  refine ⟨_, msg, hlast, hstate, hmsg, ?_⟩
  by_cases hclear : .input .supervisor .clearFault ∈ post
  · obtain ⟨mid, rest, rfl⟩ := List.append_of_mem hclear
    refine .inr ⟨pre ++ .input .supervisor (.timerTick now nowLocalization nowHealth order) :: mid,
      rest, by simp, ?_⟩
    have hlog : (stateAfter p monitor envelope (pre ++
        .input .supervisor (.timerTick now nowLocalization nowHealth order) :: mid)).log[
          (stateAfter p monitor envelope pre).log.length + 2]? = some (.safeStop _) :=
      log_of_published mid (j := 2) (by rw [published_tick]; rfl)
    exact (List.getElem?_eq_some_iff.1 hlog).1
  · refine .inl fun q hq => ?_
    by_contra hlt
    -- the bridge would have read that the fault is latched
    obtain ⟨msg', hstate', hmsg'⟩ := last_of_latches (k := q.1) (m := q.2) hfault
      (fun ev hev => fun heq => hclear (heq ▸ hev)) hq (by omega)
    rw [bridge_faultLatched, Option.mem_def.1 hq] at hnot
    change q.2.faultLatched = false at hnot
    rw [hstate'] at hnot
    exact absurd (hnot.symm.trans hmsg') Bool.false_ne_true

/-- A clock that runs backwards latches a fault, the next tick requests the stop, and the bridge
reads the stop without the state. -/
theorem followsProfile_out_of_step_regression :
    let es : List (Event ℝ) :=
      [.input .supervisor (.timerTick 2 2 2 []), .input .supervisor (.timerTick 1 1 1 []),
        .input .supervisor (.timerTick 1 1 1 []), .deliver .bridge 8 (0, 0)]
    let s := stateAfter bringup bringupMonitor bringupEnvelope es
    ∃ k msg, s.last (.bridge, .safeStop) = some (k + 1, .safeStop true) ∧
      s.log[k]? = some (.state msg) ∧ msg.faultLatched = true ∧
      ((∀ q ∈ s.last (.bridge, .state), q.1 < k) ∨
        ∃ pre post, es = pre ++ .input .supervisor .clearFault :: post ∧
          k + 1 < (stateAfter bringup bringupMonitor bringupEnvelope pre).log.length) :=
  followsProfile_out_of_step bringup bringupMonitor bringupEnvelope _ ⟨rfl, rfl⟩

end SafetyStack

end SafetyCore
