import Mathlib.Algebra.Field.Rat
import Mathlib.Data.List.Infix
import Mathlib.Tactic.NormNum
import SafetyCore.Transition.SequenceLock

/-!
# Buffered sensors

A buffered sensor hands samples from the driver, which calls `write`, to the readers,
which call `read`. Both buffers are sequence locks. The copy of a sample is cut into the
copies of its fields, in the order of their declarations, and every access to the
counter is sequentially consistent.
-/

namespace SafetyCore

open Transition SequenceLock

structure ImuSample (α : Type) [OfScientific α] where
  angularVelocityXRadps : α := 0.0
  angularVelocityYRadps : α := 0.0
  angularVelocityZRadps : α := 0.0
  linearAccelXMps2 : α := 0.0
  linearAccelYMps2 : α := 0.0
  linearAccelZMps2 : α := 0.0
  timestampNs : UInt64 := 0
  status : UInt8 := 0
  deriving DecidableEq

structure OdometrySample (α : Type) [OfScientific α] where
  positionM : α := 0.0
  velocityMps : α := 0.0
  timestampNs : UInt64 := 0
  deriving DecidableEq

inductive ImuSample.Field
  | angularVelocityXRadps
  | angularVelocityYRadps
  | angularVelocityZRadps
  | linearAccelXMps2
  | linearAccelYMps2
  | linearAccelZMps2
  | timestampNs
  | status
  deriving DecidableEq

inductive OdometrySample.Field
  | positionM
  | velocityMps
  | timestampNs
  deriving DecidableEq

section Layouts

variable {α : Type} [OfScientific α]

def ImuSample.Field.Value (α : Type) : ImuSample.Field → Type
  | .timestampNs => UInt64
  | .status => UInt8
  | _ => α

def ImuSample.get : (f : ImuSample.Field) → ImuSample α → f.Value α
  | .angularVelocityXRadps, s => s.angularVelocityXRadps
  | .angularVelocityYRadps, s => s.angularVelocityYRadps
  | .angularVelocityZRadps, s => s.angularVelocityZRadps
  | .linearAccelXMps2, s => s.linearAccelXMps2
  | .linearAccelYMps2, s => s.linearAccelYMps2
  | .linearAccelZMps2, s => s.linearAccelZMps2
  | .timestampNs, s => s.timestampNs
  | .status, s => s.status

def ImuSample.copy (f : ImuSample.Field) (src dst : ImuSample α) : ImuSample α :=
  match f with
  | .angularVelocityXRadps => { dst with angularVelocityXRadps := src.angularVelocityXRadps }
  | .angularVelocityYRadps => { dst with angularVelocityYRadps := src.angularVelocityYRadps }
  | .angularVelocityZRadps => { dst with angularVelocityZRadps := src.angularVelocityZRadps }
  | .linearAccelXMps2 => { dst with linearAccelXMps2 := src.linearAccelXMps2 }
  | .linearAccelYMps2 => { dst with linearAccelYMps2 := src.linearAccelYMps2 }
  | .linearAccelZMps2 => { dst with linearAccelZMps2 := src.linearAccelZMps2 }
  | .timestampNs => { dst with timestampNs := src.timestampNs }
  | .status => { dst with status := src.status }

/-- The buffer of an IMU: `read` and `write` are those of a sequence lock around it. -/
def BufferedImuSensor.layout (α : Type) [OfScientific α] :
    Layout (ImuSample α) ImuSample.Field where
  init := {}
  Value := ImuSample.Field.Value α
  get := ImuSample.get
  copy := ImuSample.copy
  fields :=
    [.angularVelocityXRadps, .angularVelocityYRadps, .angularVelocityZRadps,
      .linearAccelXMps2, .linearAccelYMps2, .linearAccelZMps2, .timestampNs, .status]
  get_copy_self f _ _ := by cases f <;> rfl
  get_copy_of_ne {f g} _ _ h := by
    cases f <;> cases g <;> first | rfl | exact absurd rfl h
  ext {s t} h := by
    obtain ⟨⟩ := s
    obtain ⟨⟩ := t
    simp only [List.forall_mem_cons] at h
    obtain ⟨hx, hy, hz, hx', hy', hz', ht, hs, -⟩ := h
    cases hx; cases hy; cases hz; cases hx'; cases hy'; cases hz'; cases ht; cases hs
    rfl

def OdometrySample.Field.Value (α : Type) : OdometrySample.Field → Type
  | .timestampNs => UInt64
  | _ => α

def OdometrySample.get : (f : OdometrySample.Field) → OdometrySample α → f.Value α
  | .positionM, s => s.positionM
  | .velocityMps, s => s.velocityMps
  | .timestampNs, s => s.timestampNs

def OdometrySample.copy (f : OdometrySample.Field) (src dst : OdometrySample α) :
    OdometrySample α :=
  match f with
  | .positionM => { dst with positionM := src.positionM }
  | .velocityMps => { dst with velocityMps := src.velocityMps }
  | .timestampNs => { dst with timestampNs := src.timestampNs }

/-- The buffer of an odometer. -/
def BufferedOdometrySensor.layout (α : Type) [OfScientific α] :
    Layout (OdometrySample α) OdometrySample.Field where
  init := {}
  Value := OdometrySample.Field.Value α
  get := OdometrySample.get
  copy := OdometrySample.copy
  fields := [.positionM, .velocityMps, .timestampNs]
  get_copy_self f _ _ := by cases f <;> rfl
  get_copy_of_ne {f g} _ _ h := by
    cases f <;> cases g <;> first | rfl | exact absurd rfl h
  ext {s t} h := by
    obtain ⟨⟩ := s
    obtain ⟨⟩ := t
    simp only [List.forall_mem_cons] at h
    obtain ⟨hp, hv, ht, -⟩ := h
    cases hp; cases hv; cases ht
    rfl

end Layouts

/-- Every sample that a read returns is the initial one or one passed to a write, and was
current at a moment of the read. One thread writes, and fewer than `2 ^ 31` writes start
during the read, which begins after `es`, lasts through `mid` and returns with its next
access. -/
def ReadsCurrent {σ φ : Type} (L : Layout σ φ) : Prop :=
  ∀ (ι : Type) [DecidableEq ι] (w i : ι) (es mid : List (ι × Action σ)) (sample : σ),
    SingleWriter w (es ++ [(i, .read)] ++ mid) →
    ((after L es).loc i).isIdle = true →
    (∀ q, q <+: mid → ((after L (es ++ [(i, .read)] ++ q)).loc i).isIdle = false) →
    (after L (es ++ [(i, .read)] ++ mid ++ [(i, .access)])).loc i = .idle (some sample) →
    (startedIn L (after L (es ++ [(i, .read)])) mid).length < 2 ^ 31 →
    ∃ q, q <+: mid ∧ sample = current L (es ++ [(i, .read)] ++ q) ∧
      (sample = L.init ∨ sample ∈ started L (es ++ [(i, .read)] ++ q))

/-- For every schedule of one writer and any number of readers of an IMU or of an
odometer. -/
theorem bufferedSensors_readsCurrent (α : Type) [OfScientific α] :
    ReadsCurrent (BufferedImuSensor.layout α) ∧
      ReadsCurrent (BufferedOdometrySensor.layout α) :=
  ⟨fun _ _ _ _ _ _ _ hw hidle hinside hreturn hfew =>
      read_current hw hidle hinside hreturn hfew,
    fun _ _ _ _ _ _ _ hw hidle hinside hreturn hfew =>
      read_current hw hidle hinside hreturn hfew⟩

/-- The reader has copied one field when the writer writes a whole sample. It copies the
others, loads another number and starts over. -/
def retrySchedule (sample : OdometrySample ℚ) : List (Bool × Action (OdometrySample ℚ)) :=
  (false, .access) :: (true, .write sample) :: List.replicate 4 (true, .access) ++
    List.replicate 7 (false, .access)

theorem bufferedSensors_readsCurrent_retry :
    ∃ q, q <+: retrySchedule { positionM := 1, velocityMps := 2, timestampNs := 3 } ∧
      { positionM := 1, velocityMps := 2, timestampNs := 3 } =
        current (BufferedOdometrySensor.layout ℚ) ([] ++ [(false, .read)] ++ q) ∧
      ({ positionM := 1, velocityMps := 2, timestampNs := 3 } =
          (BufferedOdometrySensor.layout ℚ).init ∨
        { positionM := 1, velocityMps := 2, timestampNs := 3 } ∈
          started (BufferedOdometrySensor.layout ℚ) ([] ++ [(false, .read)] ++ q)) :=
  (bufferedSensors_readsCurrent ℚ).2 Bool true false []
    (retrySchedule { positionM := 1, velocityMps := 2, timestampNs := 3 })
    { positionM := 1, velocityMps := 2, timestampNs := 3 } (by decide +kernel)
    (by decide +kernel) (by simp only [← List.mem_inits]; decide +kernel)
    (by decide +kernel) (by decide +kernel)

end SafetyCore
