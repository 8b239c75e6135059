import SafetyCore.Ros.DriveBridge.PublishedTwist

/-!
# The command gate

What a control tick publishes is decided by the last message of each topic: every callback
overwrites the flag or the number of its own topic and leaves the others alone. Only the
stop profile has a longer memory; it is the one of the last rising edge of the safe stop.

The age of a command is an unsigned difference. For clock readings below `2 ^ 63` a command
from the future has an age of more than `2 ^ 63`, so that it counts as stale under every
timeout below that.
-/

namespace SafetyCore

open Arithmetic Transition

namespace SafetyDriveBridgeNode

namespace Event

variable {α : Type*}

/-! ## What the events write -/

def faultData : Event α → Option Bool
  | .state faultLatched => some faultLatched
  | _ => none

def safeStopData : Event α → Option Bool
  | .safeStop data => some data
  | _ => none

theorem eq_safeStop_of_safeStopData {e : Event α} {data : Bool}
    (h : e.safeStopData = some data) : e = .safeStop data := by
  cases e <;> cases h
  rfl

/-- A command with the clock reading of its arrival. -/
def command : Event α → Option (Twist α × UInt64)
  | .cmdVelNav msg now => some (msg, now)
  | _ => none

def odomData : Event α → Option α
  | .odom linearX => some linearX
  | _ => none

def clockReading : Event α → Option UInt64
  | .cmdVelNav _ now => some now
  | .controlTick now => some now
  | _ => none

variable [Zero α] [LT α] [DecidableLT α]

def recoveryLimit : Event α → Option α
  | .recoverySpeedLimit data => some (stdMax 0 data)
  | _ => none

/-- A clear zone sets the limit of the parameters. -/
def recommendedLimit [LE α] (p : Params α) : Event α → Option α
  | .envelope msg =>
      some (if msg.zone = 0 then p.maxLinearMps else stdMax 0 msg.recommendedSpeedLimitMps)
  | _ => none

end Event

/-! ## The state after a run -/

section Frame

variable {α : Type*} [Zero α] (n : SafetyDriveBridgeNode α)

/-- A tick touches nothing but the place in the profile and the speed published last. -/
theorem controlTick_frame [Neg α] [LT α] [DecidableLT α] [LE α] (p : Params α)
    (now : UInt64) :
    ∃ speed index, (n.controlTick p now).1 =
      { n with lastPublishedLinear := speed, stopProfileIndex := index } := by
  rcases n.controlTick_branches p now with
    hzero | ⟨-, ⟨-, hsample⟩ | ⟨-, cmd, -, -, hpublished⟩⟩
  · rw [hzero]
    exact ⟨_, _, rfl⟩
  · obtain ⟨-, sample, -, hr⟩ := executeStopProfile_eq_some_iff.1 hsample
    rw [← hr]
    exact ⟨_, _, rfl⟩
  · rw [hpublished]
    exact ⟨_, _, rfl⟩

end Frame

section History

variable {α : Type*} [Zero α] [Add α] [Mul α] [Div α] [Neg α] [OfScientific α]
  [LT α] [DecidableLT α] [LE α] [DecidableLE α] [FiniteTest α] (p : Params α)

/-- The limit that a command is clamped to after the messages `es`. Before the first message
the two received limits are `1e9`. -/
def limitAfter (es : List (Event α)) : α :=
  stdMin
    (stdMin p.maxLinearMps ((lastValue (Event.recommendedLimit p) es).getD 1e9))
    ((lastValue Event.recoveryLimit es).getD 1e9)

/-- The profile of a stop from the speed that was measured last among `es`. -/
def profileAfter (es : List (Event α)) : StopProfile α :=
  Motion.generateJerkLimitedStopProfile (stdMax 0 ((lastValue Event.odomData es).getD 0))
    p.maxDecelMps2 p.maxJerkMps3 p.controlPeriodS kStopProfileCapacity

/-- The safe stop in force after `es` began after `pre`: with a message that requested it
when it was not requested, and it was not withdrawn since. -/
def StopsAfter (pre es : List (Event α)) : Prop :=
  ∃ post, es = pre ++ .safeStop true :: post ∧
    lastValue Event.safeStopData pre ≠ some true ∧ .safeStop false ∉ post

/-- All that a callback does, but for the place in the stop profile. -/
theorem next_eq (n : SafetyDriveBridgeNode α) (e : Event α) :
    ∃ active index speed, (component p).next n e =
      { safeStopActive := e.safeStopData.getD n.safeStopActive
        faultLatched := e.faultData.getD n.faultLatched
        recommendedSpeedLimitMps :=
          (Event.recommendedLimit p e).getD n.recommendedSpeedLimitMps
        recoverySpeedLimitMps := (Event.recoveryLimit e).getD n.recoverySpeedLimitMps
        measuredForwardSpeedMps := e.odomData.getD n.measuredForwardSpeedMps
        latestNavCmd := (e.command.map Prod.fst).or n.latestNavCmd
        latestNavCmdTimeNs := (e.command.map Prod.snd).getD n.latestNavCmdTimeNs
        stopProfileActive := active
        stopProfileIndex := index
        stopProfile :=
          if e.safeStopData = some true ∧ n.safeStopActive = false then
            (Motion.generateJerkLimitedStopProfile (stdMax 0 n.measuredForwardSpeedMps)
              p.maxDecelMps2 p.maxJerkMps3 p.controlPeriodS kStopProfileCapacity).points
          else n.stopProfile
        lastPublishedLinear := speed } := by
  cases e with
  | envelope msg =>
      simp only [component, onEnvelope, Event.recommendedLimit]
      split <;> exact ⟨_, _, _, rfl⟩
  | safeStop data =>
      cases data with
      | false => exact ⟨_, _, _, rfl⟩
      | true =>
          simp only [component, onSafeStop, startJerkLimitedStop, Event.safeStopData]
          cases n.safeStopActive <;> exact ⟨_, _, _, rfl⟩
  | controlTick now =>
      obtain ⟨speed, index, hframe⟩ := n.controlTick_frame p now
      exact ⟨_, _, _, hframe⟩
  | _ => exact ⟨_, _, _, rfl⟩

section Run

variable (es : List (Event α))

theorem run_faultLatched :
    ((component p).run initial es).faultLatched =
      (lastValue Event.faultData es).getD false := by
  refine Component.run_eq_lastValue (faultLatched ·) Event.faultData (fun n e => ?_) initial es
  obtain ⟨_, _, _, h⟩ := next_eq p n e
  rw [h]

theorem run_safeStopActive :
    ((component p).run initial es).safeStopActive =
      (lastValue Event.safeStopData es).getD false := by
  refine Component.run_eq_lastValue (safeStopActive ·) Event.safeStopData (fun n e => ?_)
    initial es
  obtain ⟨_, _, _, h⟩ := next_eq p n e
  rw [h]

theorem run_measuredForwardSpeedMps :
    ((component p).run initial es).measuredForwardSpeedMps =
      (lastValue Event.odomData es).getD 0 := by
  refine Component.run_eq_lastValue (measuredForwardSpeedMps ·) Event.odomData
    (fun n e => ?_) initial es
  obtain ⟨_, _, _, h⟩ := next_eq p n e
  rw [h]

theorem run_limits :
    ((component p).run initial es).recommendedSpeedLimitMps =
        (lastValue (Event.recommendedLimit p) es).getD 1e9 ∧
      ((component p).run initial es).recoverySpeedLimitMps =
        (lastValue Event.recoveryLimit es).getD 1e9 := by
  constructor
  · refine Component.run_eq_lastValue (recommendedSpeedLimitMps ·) (Event.recommendedLimit p)
      (fun n e => ?_) initial es
    obtain ⟨_, _, _, h⟩ := next_eq p n e
    rw [h]
  · refine Component.run_eq_lastValue (recoverySpeedLimitMps ·) Event.recoveryLimit
      (fun n e => ?_) initial es
    obtain ⟨_, _, _, h⟩ := next_eq p n e
    rw [h]

/-- The command held is the last one received, with its arrival. -/
theorem run_latestNavCmd (cmd : Twist α)
    (h : ((component p).run initial es).latestNavCmd = some cmd) :
    lastValue Event.command es =
      some (cmd, ((component p).run initial es).latestNavCmdTimeNs) := by
  revert cmd
  refine Component.run_history (C := component p)
    (I := fun es n => ∀ cmd, n.latestNavCmd = some cmd →
      lastValue Event.command es = some (cmd, n.latestNavCmdTimeNs)) ?_ ?_ es
  · intro cmd hcmd
    cases hcmd
  · intro es e ih cmd hcmd
    obtain ⟨_, _, _, hnext⟩ := next_eq p ((component p).run initial es) e
    rw [hnext] at hcmd ⊢
    rw [lastValue_concat]
    cases hc : e.command with
    | none =>
        rw [hc] at hcmd
        exact ih cmd hcmd
    | some c =>
        rw [hc] at hcmd
        cases hcmd
        rfl

/-- The profile held during a safe stop is the one of its beginning. -/
theorem run_stopProfile (h : ((component p).run initial es).safeStopActive = true) :
    ∃ pre, StopsAfter pre es ∧
      ((component p).run initial es).stopProfile = (profileAfter p pre).points := by
  revert h
  refine Component.run_history (C := component p)
    (I := fun es n => n.safeStopActive = true →
      ∃ pre, StopsAfter pre es ∧ n.stopProfile = (profileAfter p pre).points) ?_ ?_ es
  · intro hactive
    cases hactive
  · intro es e ih hactive
    have hbefore := run_safeStopActive p es
    obtain ⟨_, _, _, hnext⟩ := next_eq p ((component p).run initial es) e
    rw [hnext] at hactive ⊢
    dsimp only at hactive ⊢
    by_cases hrise : e.safeStopData = some true ∧
        ((component p).run initial es).safeStopActive = false
    · -- the safe stop begins here
      obtain ⟨hdata, hinactive⟩ := hrise
      cases Event.eq_safeStop_of_safeStopData hdata
      refine ⟨es, ⟨[], rfl, ?_, List.not_mem_nil⟩, ?_⟩
      · intro hlast
        rw [hinactive, hlast] at hbefore
        cases hbefore
      · rw [if_pos ⟨rfl, hinactive⟩, run_measuredForwardSpeedMps, profileAfter]
    · -- it is in force already, and it is not withdrawn
      have hkept : ((component p).run initial es).safeStopActive = true ∧
          e ≠ .safeStop false := by
        cases hdata : e.safeStopData with
        | none =>
            rw [hdata] at hactive
            refine ⟨hactive, ?_⟩
            rintro rfl
            cases hdata
        | some data =>
            rw [hdata] at hactive
            cases (hactive : data = true)
            refine ⟨?_, ?_⟩
            · rw [hdata] at hrise
              simpa using hrise
            · rintro rfl
              cases hdata
      obtain ⟨pre, ⟨post, rfl, hpre, hpost⟩, hprofile⟩ := ih hkept.1
      refine ⟨pre, ⟨post ++ [e], by simp, hpre, ?_⟩, ?_⟩
      · rw [List.mem_append, List.mem_singleton, not_or]
        exact ⟨hpost, hkept.2.symm⟩
      · rw [if_neg hrise, hprofile]

end Run

/-- The twist is the last command, which was received at most the freshness timeout ago,
within the limits; the last safe stop message, if any, requests no stop. -/
def PublishesCommand (es : List (Event α)) (now : UInt64) (t : Twist α) : Prop :=
  lastValue Event.safeStopData es ≠ some true ∧
    ∃ cmd arrival, lastValue Event.command es = some (cmd, arrival) ∧
      arrival.toNat ≤ now.toNat ∧
      now.toNat - arrival.toNat ≤ p.cmdFreshnessTimeoutNs.toNat ∧
      t.linearX = stdClamp cmd.linearX (-limitAfter p es) (limitAfter p es) ∧
      t.angularZ = stdClamp cmd.angularZ (-p.maxAngularRadps) p.maxAngularRadps

/-- The twist is a sample of the profile of the stop that the last safe stop message
requests. -/
def PublishesSample (es : List (Event α)) (t : Twist α) : Prop :=
  lastValue Event.safeStopData es = some true ∧ t.angularZ = 0 ∧
    ∃ pre, StopsAfter pre es ∧ ∃ sample ∈ (profileAfter p pre).points,
      t.linearX = sample.speedMps

/-- The messages were received at clock readings below `2 ^ 63`. -/
def ClockInRange (es : List (Event α)) : Prop :=
  ∀ e ∈ es, ∀ now ∈ e.clockReading, now.toNat < 2 ^ 63

/-- A flag that is down was not raised by the last message. -/
theorem getD_ne_true {last : Option Bool} {flag : Bool} (h : flag = last.getD false)
    (hflag : flag = false) : last ≠ some true := by
  rintro rfl
  rw [hflag] at h
  cases h

/-- A tick publishes zero, a sample of the stop profile or the last command. -/
theorem controlTick_cases (htimeout : p.cmdFreshnessTimeoutNs.toNat < 2 ^ 63)
    (es : List (Event α)) (hclock : ClockInRange es) (now : UInt64) :
    let t := (((component p).run initial es).controlTick p now).2
    t = ⟨0, 0⟩ ∨ lastValue Event.faultData es ≠ some true ∧
      (PublishesCommand p es now t ∨ PublishesSample p es t) := by
  have hfault := run_faultLatched p es
  have hstop := run_safeStopActive p es
  have hcommand := run_latestNavCmd p es
  have hprofile := run_stopProfile p es
  obtain ⟨hrecommended, hrecovery⟩ := run_limits p es
  generalize (component p).run initial es = n at *
  dsimp only
  rcases n.controlTick_branches p now with
    hzero | ⟨hnotfault, ⟨hactive, hpublished⟩ | ⟨hinactive, cmd, hcmd, hfresh, hpublished⟩⟩
  · exact .inl (congrArg Prod.snd hzero)
  · obtain ⟨-, sample, hsample, hr⟩ := executeStopProfile_eq_some_iff.1 hpublished
    obtain ⟨pre, hpre, hpoints⟩ := hprofile hactive
    have hmem : sample ∈ (profileAfter p pre).points :=
      hpoints ▸ List.mem_of_getElem? hsample
    have hlast : lastValue Event.safeStopData es = some true := by
      rw [hactive] at hstop
      cases hdata : lastValue Event.safeStopData es with
      | none => rw [hdata] at hstop; cases hstop
      | some data => rw [hdata] at hstop; exact congrArg some hstop.symm
    refine .inr ⟨getD_ne_true hfault hnotfault, .inr ⟨hlast, ?_, pre, hpre, sample, hmem, ?_⟩⟩
    · rw [← hr]
    · rw [← hr]
  · have hlast := hcommand cmd hcmd
    obtain ⟨e, he, hdata⟩ := exists_mem_of_lastValue hlast
    have harrival : n.latestNavCmdTimeNs.toNat < 2 ^ 63 := by
      refine hclock e he _ ?_
      cases e <;> cases hdata
      rfl
    obtain ⟨hpast, hage⟩ := TimeUtils.age_of_not_isStale harrival htimeout hfresh
    have hlimit : stdMin (stdMin p.maxLinearMps n.recommendedSpeedLimitMps)
        n.recoverySpeedLimitMps = limitAfter p es := by
      rw [hrecommended, hrecovery, limitAfter]
    refine .inr ⟨getD_ne_true hfault hnotfault, .inl ⟨getD_ne_true hstop hinactive, cmd,
      n.latestNavCmdTimeNs, hlast, hpast, hage, ?_, ?_⟩⟩
    · simp only [hpublished, processAndPublishCommand, clampCommand, hlimit]
    · rw [hpublished]
      rfl

end History

section Double

variable {K : Type*} [Field K] [LinearOrder K] {F : Format K} (p : Params (Double F))

theorem limitAfter_nonneg [IsStrictOrderedRing K] (hlinear : p.maxLinearMps ≠ .nan)
    (es : List (Event (Double F))) : 0 ≤ limitAfter p es := by
  have hmax : 0 ≤ p.maxLinearMps :=
    Double.le_of_lt ((Double.not_le hlinear Double.zero_ne_nan).1 p.maxLinearMps_valid)
  have hdefault : (0 : Double F) ≤ 1e9 := Double.zero_le_ofExact (by norm_num)
  have hlast : ∀ field : Event (Double F) → Option (Double F),
      (∀ e v, field e = some v → 0 ≤ v) → 0 ≤ (lastValue field es).getD 1e9 := by
    intro field hfield
    cases hv : lastValue field es with
    | none => exact hdefault
    | some v =>
        obtain ⟨e, -, he⟩ := exists_mem_of_lastValue hv
        exact hfield e v he
  refine Double.le_stdMin (Double.le_stdMin hmax (hlast _ ?_)) (hlast _ ?_)
  · intro e v hv
    cases e with
    | envelope msg =>
        cases hv
        split
        · exact hmax
        · exact Double.zero_le_stdMax _
    | _ => cases hv
  · intro e v hv
    cases e with
    | recoverySpeedLimit data =>
        cases hv
        exact Double.zero_le_stdMax _
    | _ => cases hv

/-- In every run with clock readings and a freshness timeout below `2 ^ 63`: if a tick
publishes a twist that is not zero, the last state message, if any, reports no latched
fault, and the twist is the last command within the limits, or a sample of the profile of
the stop that the last safe stop message requests. The limits from zero on are in order. -/
theorem controlTick_gate [IsStrictOrderedRing K]
    (htimeout : p.cmdFreshnessTimeoutNs.toNat < 2 ^ 63) (es : List (Event (Double F)))
    (hclock : ClockInRange es) (now : UInt64) (t : Twist (Double F))
    (ht : (component p).output ((component p).run initial es) (.controlTick now) = some t)
    (hnonzero : t.linearX ≠ 0 ∨ t.angularZ ≠ 0) :
    lastValue Event.faultData es ≠ some true ∧
      (PublishesCommand p es now t ∧ (p.maxLinearMps ≠ .nan → 0 ≤ limitAfter p es) ∨
        PublishesSample p es t) := by
  have hcases := controlTick_cases p htimeout es hclock now
  cases ht
  rcases hcases with hzero | ⟨hfault, hcommand | hsample⟩
  · rw [hzero] at hnonzero
    simp at hnonzero
  · exact ⟨hfault, .inl ⟨hcommand, fun hlinear => limitAfter_nonneg p hlinear es⟩⟩
  · exact ⟨hfault, .inr hsample⟩

end Double

/-- The first tick after a command. -/
theorem controlTick_gate_command :
    lastValue Event.faultData [.cmdVelNav (⟨1.0, 0⟩ : Twist (ExactDouble ℚ)) 3] ≠ some true ∧
      (PublishesCommand Params.exactDefault [.cmdVelNav ⟨1.0, 0⟩ 3] 4 ⟨1.0, 0⟩ ∧
          (Params.exactDefault.maxLinearMps ≠ .nan →
            0 ≤ limitAfter Params.exactDefault [.cmdVelNav ⟨1.0, 0⟩ 3]) ∨
        PublishesSample Params.exactDefault [.cmdVelNav ⟨1.0, 0⟩ 3] ⟨1.0, 0⟩) :=
  controlTick_gate Params.exactDefault (by decide) [.cmdVelNav ⟨1.0, 0⟩ 3]
    (by simp [ClockInRange, Event.clockReading]) 4 ⟨1.0, 0⟩ (by decide +kernel)
    (by decide +kernel)

end SafetyDriveBridgeNode

end SafetyCore
