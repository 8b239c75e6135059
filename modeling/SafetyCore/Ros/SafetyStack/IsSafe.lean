import SafetyCore.Ros.SafetyStack.EndToEnd

/-!
# What the behavior tree is told

The condition of the behavior tree succeeds only on a message that a tick of the supervisor has
published, so only on a state in which no fault was latched and no stop requested. Whether it ever
succeeds depends on the profiles: it asks for the durability `transient_local`, which the
supervisor does not offer. The rule of the middleware is a parameter of the stack.
-/

namespace SafetyCore

open Arithmetic Transition

namespace SafetyStack

variable {α : Type}

/-- A supervisor from whose state a message was built on which the condition succeeds. -/
structure Permits (allowWarning allowProtective : Option Bool) (mode : Mode)
    (n : SafetySupervisorNode α) : Prop where
  mode_ne : mode ≠ .safeStop ∧ mode ≠ .degraded ∧ mode ≠ .localizationLost
  not_latched : n.machine.latchedFault = false
  not_requested : n.safeStopRequested = false
  zone : IsSafeCondition.ZonePermitted allowWarning allowProtective n.latestZone

/-- The condition succeeds on the message of a supervisor exactly if the supervisor permits it. -/
theorem tick_buildStateMsg_iff {allowWarning allowProtective : Option Bool} {mode : Mode}
    {n : SafetySupervisorNode α} :
    (IsSafeCondition.initial.onSafetyState (n.buildStateMsg mode)).tick allowWarning
        allowProtective = .success ↔
      Permits allowWarning allowProtective mode n := by
  refine IsSafeCondition.tick_eq_success_iff.trans ?_
  constructor
  · rintro ⟨-, hfault, hstop, hmode, hzone⟩
    exact ⟨hmode, hfault, (Bool.or_eq_false_iff.1 hstop).1, hzone⟩
  · rintro ⟨hmode, hfault, hstop, hzone⟩
    have hrequest := Bool.or_eq_false_iff.2 ⟨hstop, decide_eq_false hmode.1⟩
    exact ⟨rfl, hfault, hrequest, hmode, hzone⟩

/-! ## Where a success comes from -/

variable [Zero α] [Add α] [Sub α] [Mul α] [Div α] [Neg α] [OfScientific α]
  [NatCast α] [IntCast α] [LT α] [DecidableLT α] [LE α] [DecidableLE α] [FiniteTest α]
  [SquareRoot α] [Trigonometry α] [Casts α]

/-- The result of a tick of the behavior tree. -/
def isSafeTick (s : State α) (allowWarning allowProtective : Option Bool) : NodeStatus :=
  (s.nodes .isSafe).tick allowWarning allowProtective

/-- A tick that succeeds has read a message on which it succeeds. -/
theorem last_of_success {p : Params α} {monitor : SensorMonitorNode α}
    {envelope : SafetyEnvelopeNode α} {es : List (Event α)}
    {allowWarning allowProtective : Option Bool}
    (h : isSafeTick (stateAfter p monitor envelope es) allowWarning allowProtective = .success) :
    ∃ k msg, (stateAfter p monitor envelope es).last (.isSafe, .state) = some (k, .state msg) ∧
      (stateAfter p monitor envelope es).log[k]? = some (.state msg) ∧
      (IsSafeCondition.initial.onSafetyState msg).tick allowWarning allowProtective =
        .success := by
  rw [isSafeTick, isSafe_eq_last] at h
  cases hlast : (stateAfter p monitor envelope es).last (.isSafe, .state) with
  | none =>
      rw [hlast] at h
      cases h
  | some q =>
      obtain ⟨k, m⟩ := q
      obtain ⟨hlog, htopic⟩ := coherent_stateAfter p monitor envelope es _ _ k m hlast
      rw [hlast] at h
      cases m with
      | state msg => exact ⟨k, msg, rfl, hlog, h⟩
      | _ => cases htopic

/-- In every run: if a tick of the behavior tree succeeds, the state message read last was
published by a tick of the supervisor, which began in a mode in which the robot may move and left
a supervisor with no latched fault, no requested stop and a zone that the ports permit. -/
theorem exists_tick_of_success (p : Params α) (monitor : SensorMonitorNode α)
    (envelope : SafetyEnvelopeNode α) (es : List (Event α))
    (allowWarning allowProtective : Option Bool)
    (h : isSafeTick (stateAfter p monitor envelope es) allowWarning allowProtective = .success) :
    ∃ pre now nowLocalization nowHealth order post msg,
      es = pre ++ .input .supervisor (.timerTick now nowLocalization nowHealth order) :: post ∧
        (stateAfter p monitor envelope es).last (.isSafe, .state) =
          some ((stateAfter p monitor envelope pre).log.length + 1, .state msg) ∧
        ((network p).published (stateAfter p monitor envelope pre)
          (.input .supervisor (.timerTick now nowLocalization nowHealth order)))[1]? =
            some (.state msg) ∧
        Permits allowWarning allowProtective
          ((stateAfter p monitor envelope pre).nodes .supervisor).machine.mode
          ((stateAfter p monitor envelope (pre ++
            [.input .supervisor (.timerTick now nowLocalization nowHealth order)])).nodes
              .supervisor) := by
  obtain ⟨k, msg, hlast, hlog, hsuccess⟩ := last_of_success h
  obtain ⟨pre, ev, post, j, rfl, hpub, rfl⟩ := Network.exists_published _ es hlog (Nat.zero_le k)
  obtain ⟨now, nowLocalization, nowHealth, order, rfl, hmsg⟩ :=
    exists_tick_of_state_mem (List.mem_of_getElem? hpub)
  -- The state is the second message of the tick.
  obtain rfl : j = 1 := by
    rw [published_tick] at hpub
    match j, hpub with
    | 1, _ => rfl
    | 2, h => cases h
    | _ + 3, h => cases h
  refine ⟨pre, now, nowLocalization, nowHealth, order, post, msg, rfl, hlast, hpub, ?_⟩
  have hstate : stateAfter p monitor envelope (pre ++
      [.input .supervisor (.timerTick now nowLocalization nowHealth order)]) =
        (network p).step ((network p).component.run (initial p monitor envelope) pre)
          (.input .supervisor (.timerTick now nowLocalization nowHealth order)) :=
    stateAfter_append p monitor envelope pre _
  rw [hstate]
  rw [hmsg] at hsuccess
  exact tick_buildStateMsg_iff.1 hsuccess

/-- The bringup, with a supervisor that offers the durability. -/
noncomputable def durableBringup : Params ℝ :=
  { bringup with offered := fun _ => { depth := 10, transientLocal := true } }

/-- The first tick of the supervisor. -/
theorem exists_tick_of_success_firstTick :
    ∃ pre now nowLocalization nowHealth order post msg,
      [.input .supervisor (.timerTick 0 0 0 []), .deliver .isSafe 1 (0, 0)] =
        pre ++ .input .supervisor (.timerTick now nowLocalization nowHealth order) :: post ∧
      (stateAfter durableBringup bringupMonitor bringupEnvelope
        [.input .supervisor (.timerTick 0 0 0 []), .deliver .isSafe 1 (0, 0)]).last
          (.isSafe, .state) =
        some ((stateAfter durableBringup bringupMonitor bringupEnvelope pre).log.length + 1,
          .state msg) ∧
      ((network durableBringup).published
        (stateAfter durableBringup bringupMonitor bringupEnvelope pre)
        (.input .supervisor (.timerTick now nowLocalization nowHealth order)))[1]? =
          some (.state msg) ∧
      Permits none none
        ((stateAfter durableBringup bringupMonitor bringupEnvelope pre).nodes
          .supervisor).machine.mode
        ((stateAfter durableBringup bringupMonitor bringupEnvelope (pre ++
          [.input .supervisor (.timerTick now nowLocalization nowHealth order)])).nodes
            .supervisor) :=
  exists_tick_of_success _ bringupMonitor bringupEnvelope _ none none rfl

/-! ## The profiles -/

/-- A node that the middleware does not connect to a topic reads nothing on it. -/
theorem last_of_not_connected {p : Params α} {i : NodeId} {t : Topic}
    (h : connected p i t = false) (monitor : SensorMonitorNode α)
    (envelope : SafetyEnvelopeNode α) (es : List (Event α)) :
    (stateAfter p monitor envelope es).last (i, t) = none := by
  refine Component.run_history (C := (network p).component)
    (I := fun _ s => s.last (i, t) = none) rfl ?_ es
  intro es ev ih
  rcases (network p).last_step_cases ((network p).component.run _ es) ev i t with
    ⟨hsame, -⟩ | ⟨k, c, m, e, -, -, htopic, hacc, -⟩
  · exact hsame.trans ih
  · change (if connected p i m.topic then _ else none) = _ at hacc
    change m.topic = t at htopic
    rw [htopic, h] at hacc
    cases hacc

/-- What a node has read last is older than what is published next. -/
theorem last_lt_length (p : Params α) (monitor : SensorMonitorNode α)
    (envelope : SafetyEnvelopeNode α) (es : List (Event α)) {r : NodeId × Topic}
    {q : ℕ × Message α} (h : (stateAfter p monitor envelope es).last r = some q) :
    q.1 < (stateAfter p monitor envelope es).log.length :=
  (List.getElem?_eq_some_iff.1
    (coherent_stateAfter p monitor envelope es r.1 r.2 q.1 q.2 h).1).1

/-- A condition that reads the state message of the tick before succeeds exactly if the tick
permits it. -/
theorem success_after_tick_iff {p : Params α} (hconn : connected p .isSafe .state = true)
    (monitor : SensorMonitorNode α) (envelope : SafetyEnvelopeNode α) (es : List (Event α))
    (now nowLocalization nowHealth : UInt64) (order : List String) (c : UInt64 × UInt64)
    (allowWarning allowProtective : Option Bool) :
    let s := stateAfter p monitor envelope es
    let tick : Event α := .input .supervisor (.timerTick now nowLocalization nowHealth order)
    isSafeTick (stateAfter p monitor envelope
        (es ++ [tick, .deliver .isSafe (s.log.length + 1) c])) allowWarning allowProtective =
          .success ↔
      Permits allowWarning allowProtective (s.nodes .supervisor).machine.mode
        ((stateAfter p monitor envelope (es ++ [tick])).nodes .supervisor) := by
  intro s tick
  have hstep : stateAfter p monitor envelope (es ++ [tick]) = (network p).step s tick :=
    stateAfter_append p monitor envelope es _
  have hlog : ((network p).step s tick).log[s.log.length + 1]? =
      some (.state ((((network p).step s tick).nodes .supervisor).buildStateMsg
        (s.nodes .supervisor).machine.mode)) := by
    rw [Network.log_step, List.getElem?_append_right (Nat.le_add_right _ _),
      Nat.add_sub_cancel_left, published_tick]
    rfl
  have hunread : ∀ q ∈ ((network p).step s tick).last (.isSafe, .state),
      q.1 < s.log.length + 1 := by
    intro q hq
    rcases (network p).last_step_cases s tick .isSafe .state with
      ⟨hsame, -⟩ | ⟨_, _, _, _, hdeliver, -⟩
    · exact Nat.lt_succ_of_lt (last_lt_length p monitor envelope es (hsame ▸ hq))
    · simp [tick] at hdeliver
  have hreads := reads_deliver (c := c) (i := .isSafe) hlog hunread hconn rfl
  have hrun : stateAfter p monitor envelope
      (es ++ [tick, .deliver .isSafe (s.log.length + 1) c]) =
        (network p).step ((network p).step s tick) (.deliver .isSafe (s.log.length + 1) c) :=
    stateAfter_append p monitor envelope es _
  rw [isSafeTick, hrun, Network.nodes_step_self hreads, hstep]
  exact tick_buildStateMsg_iff

/-- With the profiles of the source and a middleware that refuses a volatile publisher where the
durability is requested, every tick of the behavior tree fails in every run. With a supervisor
that offers the reliability and the durability and a middleware that connects what is offered,
the behavior tree learns after every run what the next tick of the supervisor permits. -/
theorem isSafeTick_by_profiles (p : Params α) (monitor : SensorMonitorNode α)
    (envelope : SafetyEnvelopeNode α) :
    (Qos.RefusesVolatile p.compatible → p.offered = publisher →
      ∀ es allowWarning allowProtective,
        isSafeTick (stateAfter p monitor envelope es) allowWarning allowProtective = .failure) ∧
    (Qos.ConnectsOffered p.compatible → (p.offered .state).reliable = true →
      (p.offered .state).transientLocal = true →
      ∀ es now nowLocalization nowHealth order c allowWarning allowProtective,
        let s := stateAfter p monitor envelope es
        let tick : Event α :=
          .input .supervisor (.timerTick now nowLocalization nowHealth order)
        isSafeTick (stateAfter p monitor envelope
            (es ++ [tick, .deliver .isSafe (s.log.length + 1) c])) allowWarning
              allowProtective = .success ↔
          Permits allowWarning allowProtective (s.nodes .supervisor).machine.mode
            ((stateAfter p monitor envelope (es ++ [tick])).nodes .supervisor)) := by
  constructor
  · intro hrule hoffered es allowWarning allowProtective
    have hconn : connected p .isSafe .state = false := by
      rw [connected, hoffered]
      exact hrule _ _ rfl rfl
    cases hstatus : isSafeTick (stateAfter p monitor envelope es) allowWarning
        allowProtective with
    | failure => rfl
    | success =>
        obtain ⟨k, msg, hlast, -⟩ := last_of_success hstatus
        rw [last_of_not_connected hconn] at hlast
        cases hlast
  · intro hrule hreliable hdurable es now nowLocalization nowHealth order c
    have hconn : connected p .isSafe .state = true :=
      hrule _ _ (fun _ => hreliable) (fun _ => hdurable)
    exact success_after_tick_iff hconn monitor envelope es now nowLocalization nowHealth order c

/-- The first tick of the bringup, which fails, and of the one with the durability, which the
supervisor permits. -/
theorem isSafeTick_by_profiles_firstTick :
    isSafeTick (stateAfter bringup bringupMonitor bringupEnvelope
      [.input .supervisor (.timerTick 0 0 0 []), .deliver .isSafe 1 (0, 0)]) none none =
        .failure ∧
    isSafeTick (stateAfter durableBringup bringupMonitor bringupEnvelope
      [.input .supervisor (.timerTick 0 0 0 []), .deliver .isSafe 1 (0, 0)]) none none =
        .success := by
  constructor
  · exact (isSafeTick_by_profiles bringup bringupMonitor bringupEnvelope).1
      Qos.offersAll_refusesVolatile rfl _ none none
  · refine ((isSafeTick_by_profiles durableBringup bringupMonitor bringupEnvelope).2
      Qos.offersAll_connectsOffered rfl rfl [] 0 0 0 [] (0, 0) none none).2 ?_
    exact ⟨⟨nofun, nofun, nofun⟩, rfl, rfl, .inl rfl⟩

end SafetyStack

end SafetyCore
