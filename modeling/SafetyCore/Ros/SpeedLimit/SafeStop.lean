import SafetyCore.Ros.SpeedLimit
import SafetyCore.Transition.Component

/-!
# The limit after a safe stop

What the controller aims at is decided by its last mark: an update in the safe stop, a
degradation or a recovery. `Tracks` says how. A safe stop overwrites what was aimed at, and
nothing but the next degradation or recovery brings another aim; an update that finds the
safe stop cleared stays at zero until then.
-/

namespace SafetyCore

open Transition

namespace SpeedLimitController

/-- The calls of the controller. -/
inductive Event
  | update (nowNs : UInt64) (safeStopActive : Bool)
  | onDegraded
  | onRecovered (nowNs : UInt64)
  deriving DecidableEq, Repr

/-- A call that decides what is aimed at. -/
inductive Mark
  | stopped
  | degraded
  | recovered (nowNs : UInt64)
  deriving DecidableEq, Repr

def Event.mark : Event → Option Mark
  | .update _ safeStopActive => if safeStopActive then some .stopped else none
  | .onDegraded => some .degraded
  | .onRecovered nowNs => some (.recovered nowNs)

theorem Event.eq_update_of_mark {e : Event} (h : e.mark = none) :
    ∃ nowNs, e = .update nowNs false := by
  cases e with
  | update nowNs safeStopActive =>
      cases safeStopActive with
      | true => cases h
      | false => exact ⟨nowNs, rfl⟩
  | onDegraded => cases h
  | onRecovered nowNs => cases h

/-- The marks other than the safe stop. -/
def Event.report : Event → Option Mark
  | .update _ _ => none
  | .onDegraded => some .degraded
  | .onRecovered nowNs => some (.recovered nowNs)

/-- The time that a call is given. -/
def Event.stamp : Event → Option UInt64
  | .update nowNs _ => some nowNs
  | .onDegraded => none
  | .onRecovered nowNs => some nowNs

/-- The times never decrease. -/
def Chronological (es : List Event) : Prop := (es.filterMap Event.stamp).Pairwise (· ≤ ·)

instance (es : List Event) : Decidable (Chronological es) :=
  inferInstanceAs (Decidable (List.Pairwise _ _))

theorem Chronological.left {es fs : List Event} (h : Chronological (es ++ fs)) :
    Chronological es := by
  rw [Chronological, List.filterMap_append] at h
  exact (List.pairwise_append.1 h).1

/-- An earlier call is not given a later time. -/
theorem Chronological.le_of_append {es fs : List Event} (h : Chronological (es ++ fs))
    {e f : Event} {earlier later : UInt64} (he : e ∈ es) (hearlier : e.stamp = some earlier)
    (hf : f ∈ fs) (hlater : f.stamp = some later) : earlier ≤ later := by
  rw [Chronological, List.filterMap_append] at h
  exact (List.pairwise_append.1 h).2.2 earlier (List.mem_filterMap.2 ⟨e, he, hearlier⟩) later
    (List.mem_filterMap.2 ⟨f, hf, hlater⟩)

/-- The last report is not a degradation: there is none, or it is a recovery at least a ramp
before `nowNs`. -/
def Undegraded (rampNs nowNs : UInt64) (es : List Event) : Prop :=
  lastValue Event.report es = none ∨
    ∃ startNs, lastValue Event.report es = some (.recovered startNs) ∧
      startNs.toNat + rampNs.toNat ≤ nowNs.toNat

section Runs

variable {α : Type*} [Zero α] [Add α] [Sub α] [Mul α] [Div α] [OfScientific α]
  [NatCast α]

/-- The controller driven by its calls. -/
def component : Component (SpeedLimitController α) Event (Option α) where
  next c
    | .update nowNs safeStopActive => c.update nowNs safeStopActive
    | .onDegraded => c.onDegraded
    | .onRecovered nowNs => c.onRecovered nowNs
  output c
    | .update nowNs safeStopActive => some (c.update nowNs safeStopActive).currentLimitMps
    | _ => none

/-- What the controller aims at after a mark. -/
def targetOf (maxSpeedMps : α) : Option Mark → α
  | none => maxSpeedMps
  | some .stopped => 0
  | some .degraded => maxSpeedMps * 0.5
  | some (.recovered _) => maxSpeedMps

/-- The controller after a run whose last mark is `mark`. A ramp is under way only after a
recovery, and started with it. -/
structure Tracks (maxSpeedMps : α) (rampNs : UInt64) (mark : Option Mark)
    (c : SpeedLimitController α) : Prop where
  maxSpeed : c.maxSpeedMps = maxSpeedMps
  ramp : c.rampNs = rampNs
  target : c.targetLimitMps = targetOf maxSpeedMps mark
  rampStart : ∀ startNs ∈ c.rampStartNs, mark = some (.recovered startNs)

variable {maxSpeedMps : α} {rampNs : UInt64} {mark : Option Mark}
  {c : SpeedLimitController α}

/-- The three ways in which an update without a safe stop ends. -/
theorem update_cases (c : SpeedLimitController α) (nowNs : UInt64) :
    (c.rampStartNs = none ∧
        c.update nowNs false = { c with currentLimitMps := c.targetLimitMps }) ∨
      (∃ startNs, c.rampStartNs = some startNs ∧ c.rampNs ≤ nowNs - startNs ∧
        c.update nowNs false =
          { c with currentLimitMps := c.targetLimitMps, rampStartNs := none }) ∨
      ∃ startNs, c.rampStartNs = some startNs ∧ ¬ c.rampNs ≤ nowNs - startNs ∧
        c.update nowNs false =
          { c with
            currentLimitMps := c.maxSpeedMps * 0.5 +
              (c.targetLimitMps - c.maxSpeedMps * 0.5) *
                (((nowNs - startNs).toNat : α) / (c.rampNs.toNat : α)) } := by
  unfold update
  rw [if_neg Bool.false_ne_true]
  cases hstart : c.rampStartNs with
  | none => exact .inl ⟨rfl, rfl⟩
  | some startNs =>
      dsimp only
      by_cases helapsed : c.rampNs ≤ nowNs - startNs
      · exact .inr (.inl ⟨startNs, rfl, helapsed, if_pos helapsed⟩)
      · exact .inr (.inr ⟨startNs, rfl, helapsed, if_neg helapsed⟩)

omit [Add α] [Sub α] [Div α] [NatCast α] in
theorem tracks_create (maxSpeedMps : α) (rampNs : UInt64) :
    Tracks maxSpeedMps rampNs none (create maxSpeedMps rampNs) :=
  ⟨rfl, rfl, rfl, nofun⟩

theorem Tracks.next (h : Tracks maxSpeedMps rampNs mark c) (e : Event) :
    Tracks maxSpeedMps rampNs (e.mark.or mark) (component.next c e) := by
  cases e with
  | onDegraded => exact ⟨h.maxSpeed, h.ramp, congrArg (· * 0.5) h.maxSpeed, nofun⟩
  | onRecovered nowNs =>
      refine ⟨h.maxSpeed, h.ramp, h.maxSpeed, ?_⟩
      rintro startNs ⟨⟩
      rfl
  | update nowNs safeStopActive =>
      cases safeStopActive with
      | true => exact ⟨h.maxSpeed, h.ramp, rfl, nofun⟩
      | false =>
          simp only [component, Event.mark, Bool.false_eq_true, if_false, Option.none_or]
          rcases c.update_cases nowNs with ⟨hstart, heq⟩ | ⟨startNs, -, -, heq⟩ |
            ⟨startNs, hstart, -, heq⟩ <;> rw [heq]
          · exact ⟨h.maxSpeed, h.ramp, h.target, h.rampStart⟩
          · exact ⟨h.maxSpeed, h.ramp, h.target, nofun⟩
          · exact ⟨h.maxSpeed, h.ramp, h.target, h.rampStart⟩

theorem tracks_run (maxSpeedMps : α) (rampNs : UInt64) (es : List Event) :
    Tracks maxSpeedMps rampNs (lastValue Event.mark es)
      (component.run (create maxSpeedMps rampNs) es) := by
  refine Component.run_history
    (I := fun es c => Tracks maxSpeedMps rampNs (lastValue Event.mark es) c)
    (tracks_create maxSpeedMps rampNs) (fun es e h => ?_) es
  rw [lastValue_concat]
  exact h.next e

/-- The last mark is the last report, unless a safe stop came after it. -/
theorem lastValue_mark (es : List Event) :
    lastValue Event.mark es = some .stopped ∨
      lastValue Event.mark es = lastValue Event.report es := by
  induction es using List.reverseRecOn with
  | nil => exact .inr rfl
  | append_singleton es e ih =>
      rw [lastValue_concat, lastValue_concat]
      cases e with
      | update nowNs safeStopActive =>
          cases safeStopActive with
          | true => exact .inl rfl
          | false => exact ih
      | onDegraded => exact .inr rfl
      | onRecovered nowNs => exact .inr rfl

/-- After a safe stop an update returns zero. -/
theorem Tracks.output_of_stopped (h : Tracks maxSpeedMps rampNs (some .stopped) c)
    (nowNs : UInt64) : component.output c (.update nowNs false) = some 0 := by
  have hstart : c.rampStartNs = none := by
    by_contra hne
    obtain ⟨startNs, hstart⟩ := Option.ne_none_iff_exists'.1 hne
    cases h.rampStart startNs hstart
  rcases c.update_cases nowNs with ⟨-, heq⟩ | ⟨startNs, hsome, -⟩ | ⟨startNs, hsome, -⟩
  · exact congrArg some ((congrArg _ heq).trans h.target)
  · rw [hstart] at hsome
    cases hsome
  · rw [hstart] at hsome
    cases hsome

/-- Without a safe stop an update returns the maximum, unless a sensor is degraded or the
ramp is under way. -/
theorem Tracks.output_of_undegraded (h : Tracks maxSpeedMps rampNs mark c) {nowNs : UInt64}
    (hmark : mark = none ∨ ∃ startNs, mark = some (.recovered startNs) ∧
      startNs.toNat + rampNs.toNat ≤ nowNs.toNat) :
    component.output c (.update nowNs false) = some maxSpeedMps := by
  have htarget : c.targetLimitMps = maxSpeedMps := by
    rw [h.target]
    rcases hmark with rfl | ⟨startNs, rfl, -⟩ <;> rfl
  rcases c.update_cases nowNs with ⟨-, heq⟩ | ⟨startNs, -, -, heq⟩ |
    ⟨startNs, hstart, helapsed, -⟩
  · exact congrArg some ((congrArg _ heq).trans htarget)
  · exact congrArg some ((congrArg _ heq).trans htarget)
  · have hrecovered := h.rampStart startNs hstart
    rcases hmark with rfl | ⟨startNs', rfl, hle⟩
    · cases hrecovered
    · cases hrecovered
      refine absurd ?_ helapsed
      have hsub : startNs ≤ nowNs := UInt64.le_iff_toNat_le.2 (by omega)
      rw [h.ramp, UInt64.le_iff_toNat_le, UInt64.toNat_sub_of_le _ _ hsub]
      omega

/-! ## Whole runs -/

/-- Every update that finds no sensor degraded and no ramp under way returns the maximum. -/
def RestoresMax (maxSpeedMps : α) (rampNs : UInt64) (es : List Event) : Prop :=
  ∀ pre nowNs post, es = pre ++ .update nowNs false :: post → Undegraded rampNs nowNs pre →
    component.output (component.run (create maxSpeedMps rampNs) pre) (.update nowNs false) =
      some maxSpeedMps

/-- For every maximum, ramp and run: the updates return the maximum as they should if and
only if none of them comes after a safe stop that no degradation or recovery has followed
(or the maximum is zero). -/
theorem restoresMax_iff (maxSpeedMps : α) (rampNs : UInt64) (es : List Event) :
    RestoresMax maxSpeedMps rampNs es ↔
      ∀ pre nowNs post, es = pre ++ .update nowNs false :: post →
        Undegraded rampNs nowNs pre →
        maxSpeedMps = 0 ∨ lastValue Event.mark pre ≠ some .stopped := by
  constructor
  · intro h pre nowNs post hsplit hund
    refine or_iff_not_imp_right.2 fun hstopped => ?_
    have htracks := tracks_run maxSpeedMps rampNs pre
    rw [not_not.1 hstopped] at htracks
    have hout := h pre nowNs post hsplit hund
    rw [htracks.output_of_stopped nowNs] at hout
    exact (Option.some.inj hout).symm
  · intro h pre nowNs post hsplit hund
    have htracks := tracks_run maxSpeedMps rampNs pre
    rcases lastValue_mark pre with hstopped | hreport
    · rcases h pre nowNs post hsplit hund with hzero | hnot
      · rw [hstopped] at htracks
        rw [htracks.output_of_stopped nowNs, hzero]
      · exact absurd hstopped hnot
    · rw [hreport] at htracks
      exact htracks.output_of_undegraded hund

end Runs

/-- One update in the safe stop, and the limit stays at zero after it. -/
theorem not_always_restoresMax :
    ¬ ∀ (maxSpeedMps : ℚ) (rampNs : UInt64) (es : List Event), Chronological es →
      RestoresMax maxSpeedMps rampNs es := by
  intro h
  have hmax := h 1.5 5000000000 [.update 0 true, .update 1 false] (by decide)
    [.update 0 true] 1 [] rfl (.inl rfl)
  exact absurd hmax (by decide +kernel)

end SpeedLimitController

end SafetyCore
