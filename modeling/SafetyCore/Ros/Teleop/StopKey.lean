import SafetyCore.Ros.Teleop
import SafetyCore.Ros.DriveBridge.CommandGate
import SafetyCore.Ros.SafetyStack.StopReason
import SafetyCore.Transition.Network

/-!
# The stop key

The diagnostics launch file connects the teleop node to the drive bridge. What the bridge reads on
its other topics is arbitrary here. The stop key publishes no command, so that the bridge keeps the
last one until it is stale.
-/

namespace SafetyCore

open Arithmetic Transition

/-! ## A command that is clamped to zero -/

namespace SafetyDriveBridgeNode

variable {K : Type*} [Field K] [LinearOrder K] [IsStrictOrderedRing K]

theorem stdClamp_eq_zero_iff {v x : K} (hv : 0 < v) : stdClamp x (-v) v = 0 ↔ x = 0 := by
  unfold stdClamp
  constructor
  · intro h
    split_ifs at h with hlo hhi
    · exact absurd (neg_eq_zero.1 h) hv.ne'
    · exact absurd h hv.ne'
    · exact h
  · rintro rfl
    rw [if_neg (not_lt.2 (neg_nonpos.2 hv.le)), if_neg (not_lt.2 hv.le)]

theorem clampCommand_eq_zero_iff {p : Params K} {n : SafetyDriveBridgeNode K}
    (hrecommended : 0 < n.recommendedSpeedLimitMps)
    (hrecovery : 0 < n.recoverySpeedLimitMps) (cmd : Twist K) :
    n.clampCommand p cmd n.recommendedSpeedLimitMps = ⟨0, 0⟩ ↔
      cmd.linearX = 0 ∧ cmd.angularZ = 0 := by
  have hlinear := not_le.1 p.maxLinearMps_valid
  have hangular := not_le.1 p.maxAngularRadps_valid
  have hlimit : 0 < stdMin (stdMin p.maxLinearMps n.recommendedSpeedLimitMps)
      n.recoverySpeedLimitMps := by
    rw [stdMin_eq_min, stdMin_eq_min]
    exact lt_min (lt_min hlinear hrecommended) hrecovery
  rw [clampCommand, Twist.mk.injEq, stdClamp_eq_zero_iff hlimit,
    stdClamp_eq_zero_iff hangular]

end SafetyDriveBridgeNode

/-! ## The two nodes -/

namespace TeleopDrive

inductive NodeId
  | teleop
  | bridge
  deriving DecidableEq, Repr

/-- The topic `cmd_vel_nav`. -/
inductive Topic
  | cmdVelNav
  deriving DecidableEq, Repr

abbrev NodeState (α : Type) : NodeId → Type
  | .teleop => TeleopNode α
  | .bridge => SafetyDriveBridgeNode α

abbrev NodeEvent (α : Type) : NodeId → Type
  | .teleop => Option Char
  | .bridge => SafetyDriveBridgeNode.Event α

abbrev NodeOutput (α : Type) : NodeId → Type
  | .teleop => TeleopNode.Output α
  | .bridge => Option (Twist α)

/-- The bridge reads commands from the teleop node only. -/
def external {α : Type} : ∀ i, NodeEvent α i → Bool
  | .teleop, _ => true
  | .bridge, .cmdVelNav _ _ => false
  | .bridge, _ => true

def publish {α : Type} : ∀ i, NodeOutput α i → List (Twist α)
  | .teleop, output => output.command.toList
  | .bridge, _ => []

def callback {α : Type} : ∀ i, Twist α → UInt64 → Option (NodeEvent α i)
  | .teleop, _, _ => none
  | .bridge, msg, now => some (.cmdVelNav msg now)

abbrev State (α : Type) : Type := Network.State NodeId Topic (NodeState α) (Twist α)

abbrev Event (α : Type) : Type := Network.Event NodeId UInt64 (NodeEvent α)

section Definitions

variable {α : Type} [Zero α] [Add α] [Mul α] [Div α] [Neg α] [OfScientific α] [DecidableEq α]
  [LT α] [DecidableLT α] [LE α] [DecidableLE α] [FiniteTest α]

def nodeComponent (speeds : TeleopNode.Params α) (p : SafetyDriveBridgeNode.Params α) :
    ∀ i, Component (NodeState α i) (NodeEvent α i) (NodeOutput α i)
  | .teleop => TeleopNode.component speeds
  | .bridge => SafetyDriveBridgeNode.component p

def network (speeds : TeleopNode.Params α) (p : SafetyDriveBridgeNode.Params α) :
    Network NodeId Topic UInt64 (NodeState α) (NodeEvent α) (NodeOutput α) (Twist α) where
  node := nodeComponent speeds p
  external := external
  topic _ := .cmdVelNav
  publish := publish
  accept := callback

def initial : State α :=
  .start fun
    | .teleop => TeleopNode.initial
    | .bridge => SafetyDriveBridgeNode.initial

/-- The nodes after the events `es`. -/
def stateAfter (speeds : TeleopNode.Params α) (p : SafetyDriveBridgeNode.Params α)
    (es : List (Event α)) : State α :=
  (network speeds p).component.run initial es

end Definitions

section Runs

variable {α : Type} [Zero α] [Add α] [Mul α] [Div α] [Neg α] [OfScientific α] [DecidableEq α]
  [LT α] [DecidableLT α] [LE α] [DecidableLE α] [FiniteTest α] {speeds : TeleopNode.Params α}
  {p : SafetyDriveBridgeNode.Params α}

/-- No message is a zero command. -/
theorem ne_zero_of_published {s : State α} {ev : Event α} {cmd : Twist α}
    (h : cmd ∈ (network speeds p).published s ev) : cmd.linearX ≠ 0 ∨ cmd.angularZ ≠ 0 := by
  cases hr : (network speeds p).reads s ev with
  | none =>
      rw [Network.published, Network.emits, hr] at h
      cases h
  | some r =>
      obtain ⟨i, e⟩ := r
      rw [Network.published_of_reads hr] at h
      cases i with
      | teleop => exact TeleopNode.ne_zero_of_output (Option.mem_toList.1 h)
      | bridge => cases h

/-- The bridge holds the command that it has read last. -/
theorem bridge_latestNavCmd (speeds : TeleopNode.Params α) (p : SafetyDriveBridgeNode.Params α)
    (es : List (Event α)) :
    ((stateAfter speeds p es).nodes .bridge).latestNavCmd =
      ((stateAfter speeds p es).last (.bridge, .cmdVelNav)).map Prod.snd := by
  have h := Network.run_eq_last (N := network speeds p) (i := .bridge) (t := .cmdVelNav)
    (fun n => n.latestNavCmd) some ?_ ?_ (s := initial) rfl es
  · refine h.trans ?_
    change ((((stateAfter speeds p es).last (.bridge, .cmdVelNav)).map fun q => some q.2).getD none)
      = _
    cases (stateAfter speeds p es).last (.bridge, .cmdVelNav) <;> rfl
  · intro n e hext
    obtain ⟨_, _, _, hnext⟩ := SafetyDriveBridgeNode.next_eq p n e
    refine (congrArg (·.latestNavCmd) hnext).trans ?_
    cases e with
    | cmdVelNav => cases hext
    | _ => rfl
  · intro n m c e hacc
    obtain rfl := Option.some.inj hacc
    rfl

theorem ne_zero_of_latestNavCmd {es : List (Event α)} {cmd : Twist α}
    (h : ((stateAfter speeds p es).nodes .bridge).latestNavCmd = some cmd) :
    cmd.linearX ≠ 0 ∨ cmd.angularZ ≠ 0 := by
  rw [bridge_latestNavCmd] at h
  obtain ⟨⟨k, m⟩, hlast, rfl⟩ := Option.map_eq_some_iff.1 h
  have hcoherent : (network speeds p).Coherent (stateAfter speeds p es) :=
    Network.coherent_preserved.run (Network.coherent_start _) es
  obtain ⟨hlog, -⟩ := hcoherent .bridge .cmdVelNav k m hlast
  obtain ⟨_, _, _, _, -, hpub, -⟩ := Network.exists_published _ es hlog (Nat.zero_le k)
  exact ne_zero_of_published (List.mem_of_getElem? hpub)

/-! ## After the stop key -/

/-- While the teleop node is stopped and no motion key is pressed, no step publishes. -/
theorem step_of_stopped (speeds : TeleopNode.Params α) (p : SafetyDriveBridgeNode.Params α)
    {s : State α} {ev : Event α} (hs : TeleopNode.Stopped (s.nodes .teleop))
    (hev : ∀ c, ev = .input .teleop (some c) → c ∉ TeleopNode.motionKeys) :
    TeleopNode.Stopped (((network speeds p).step s ev).nodes .teleop) ∧
      (network speeds p).published s ev = [] := by
  cases hr : (network speeds p).reads s ev with
  | none =>
      rw [Network.step_of_reads_none hr, Network.published, Network.emits, hr]
      exact ⟨hs, rfl⟩
  | some r =>
      obtain ⟨i, e⟩ := r
      rw [Network.published_of_reads hr]
      cases i with
      | teleop =>
          rcases Network.reads_eq_some_iff.1 hr with ⟨rfl, -⟩ | ⟨_, _, _, -, -, hacc⟩
          · have hkey : ∀ key ∈ e, key ∉ TeleopNode.motionKeys := by
              rintro key rfl
              exact hev key rfl
            rw [Network.nodes_step_self hr]
            exact ⟨hs.read speeds hkey, congrArg Option.toList (hs.output speeds hkey)⟩
          · cases hacc
      | bridge =>
          rw [Network.nodes_step_of_ne fun e' he' => by cases hr.symm.trans he']
          exact ⟨hs, rfl⟩

theorem log_of_stopped {s : State α} (hs : TeleopNode.Stopped (s.nodes .teleop))
    {fs : List (Event α)}
    (hfs : ∀ c, .input .teleop (some c) ∈ fs → c ∉ TeleopNode.motionKeys) :
    ((network speeds p).component.run s fs).log = s.log := by
  induction fs generalizing s with
  | nil => rfl
  | cons ev fs ih =>
      have hev : ∀ c, ev = .input .teleop (some c) → c ∉ TeleopNode.motionKeys := by
        rintro c rfl
        exact hfs c List.mem_cons_self
      obtain ⟨hstopped, hpublished⟩ := step_of_stopped speeds p hs hev
      refine (ih hstopped fun c hc => hfs c (List.mem_cons_of_mem _ hc)).trans ?_
      rw [Network.log_step, hpublished, List.append_nil]

/-- The stop key and what follows it without a motion key publish nothing. -/
theorem log_after_stop (speeds : TeleopNode.Params α) (p : SafetyDriveBridgeNode.Params α)
    (es : List (Event α)) {fs : List (Event α)}
    (hfs : ∀ c, .input .teleop (some c) ∈ fs → c ∉ TeleopNode.motionKeys) :
    (stateAfter speeds p (es ++ .input .teleop (some ' ') :: fs)).log =
      (stateAfter speeds p es).log := by
  have hr : (network speeds p).reads (stateAfter speeds p es) (.input .teleop (some ' ')) =
      some ⟨.teleop, some ' '⟩ := Network.reads_input rfl
  have hstopped : TeleopNode.Stopped (((network speeds p).step (stateAfter speeds p es)
      (.input .teleop (some ' '))).nodes .teleop) := by
    rw [Network.nodes_step_self hr]
    exact TeleopNode.stopped_read_stop speeds _
  have hpublished : (network speeds p).published (stateAfter speeds p es)
      (.input .teleop (some ' ')) = [] := by
    rw [Network.published_of_reads hr]
    exact congrArg Option.toList (TeleopNode.output_stop speeds _)
  rw [stateAfter, Component.run_append]
  refine (log_of_stopped hstopped hfs).trans ?_
  rw [Network.log_step, hpublished, List.append_nil]

end Runs

/-! ## When the drive stops -/

section Exact

variable {K : Type} [Field K] [LinearOrder K] [IsStrictOrderedRing K]

/-- Where the limits and the flags let the drive move, it stands still if and only if there is no
fresh command; and after the stop key there is no further command until a motion key. -/
theorem drive_stops_iff_stale (speeds : TeleopNode.Params K)
    (p : SafetyDriveBridgeNode.Params K) (es fs : List (Event K))
    (hfs : ∀ c, .input .teleop (some c) ∈ fs → c ∉ TeleopNode.motionKeys) :
    let s := stateAfter speeds p (es ++ .input .teleop (some ' ') :: fs)
    let n : SafetyDriveBridgeNode K := s.nodes .bridge
    s.log = (stateAfter speeds p es).log ∧
      ∀ now, n.faultLatched = false → n.safeStopActive = false →
        0 < n.recommendedSpeedLimitMps → 0 < n.recoverySpeedLimitMps →
        ((n.controlTick p now).2 = ⟨0, 0⟩ ↔
          ∀ cmd ∈ n.latestNavCmd,
            TimeUtils.isStale n.latestNavCmdTimeNs now p.cmdFreshnessTimeoutNs = true) := by
  intro s n
  refine ⟨log_after_stop speeds p es hfs, fun now hfault hstop hrecommended hrecovery => ?_⟩
  cases hcmd : n.latestNavCmd with
  | none =>
      refine iff_of_true ?_ nofun
      unfold SafetyDriveBridgeNode.controlTick
      rw [if_neg (by simp [hfault]), if_neg (by simp [hstop]), hcmd]
      rfl
  | some cmd =>
      cases hstale : TimeUtils.isStale n.latestNavCmdTimeNs now p.cmdFreshnessTimeoutNs with
      | true =>
          refine iff_of_true ?_ fun _ _ => rfl
          unfold SafetyDriveBridgeNode.controlTick
          rw [if_neg (by simp [hfault]), if_neg (by simp [hstop]), hcmd]
          dsimp only
          rw [if_pos hstale]
          rfl
      | false =>
          refine iff_of_false ?_ fun h => Bool.false_ne_true (h cmd rfl)
          rw [SafetyDriveBridgeNode.controlTick_of_fresh p hcmd hstale hfault hstop]
          intro hzero
          obtain ⟨hlinear, hangular⟩ :=
            (SafetyDriveBridgeNode.clampCommand_eq_zero_iff hrecommended hrecovery cmd).1 hzero
          exact (ne_zero_of_latestNavCmd hcmd).elim (· hlinear) (· hangular)

end Exact

/-! ## A drive that moves on after the stop key -/

section Forward

theorem half_in_range : ¬ ((0.5 : ℚ) < 0 ∨ 10.0 < (0.5 : ℚ)) := by norm_num

theorem half_in_angular_range : ¬ ((0.5 : ℚ) < 0 ∨ 5.0 < (0.5 : ℚ)) := by norm_num

/-- The defaults of the parameters. -/
def speeds : TeleopNode.Params ℚ where
  linearSpeed := 0.5
  angularSpeed := 0.5
  linearSpeed_valid := half_in_range
  angularSpeed_valid := half_in_angular_range

/-- One command forward, which the bridge reads 1 ns after its start. -/
def forward : List (Event ℚ) := [.input .teleop (some 'w'), .deliver .bridge 0 1]

theorem drive_stops_iff_stale_forward :
    let n : SafetyDriveBridgeNode ℚ :=
      (stateAfter speeds .default (forward ++ [.input .teleop (some ' ')])).nodes .bridge
    (n.controlTick .default 250000001).2 ≠ ⟨0, 0⟩ ∧
      (n.controlTick .default 250000002).2 = ⟨0, 0⟩ := by
  have h := (drive_stops_iff_stale speeds .default forward [] nofun).2
  constructor
  · rw [Ne, h 250000001 (by decide +kernel) (by decide +kernel) (by decide +kernel)
      (by decide +kernel)]
    decide +kernel
  · rw [h 250000002 (by decide +kernel) (by decide +kernel) (by decide +kernel)
      (by decide +kernel)]
    decide +kernel

end Forward

end TeleopDrive

end SafetyCore
