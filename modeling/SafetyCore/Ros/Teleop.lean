import SafetyCore.Ros.DriveBridge

/-!
# The teleop node

`TeleopNode` reads at most one key in each iteration of `keyboardLoop`, and publishes a command in
each iteration in which one of its two speeds is not zero.
-/

namespace SafetyCore

open Transition

/-- The variables of the loop. -/
structure TeleopNode (α : Type*) where
  running : Bool
  linear : α
  angular : α
  deriving DecidableEq, Repr

namespace TeleopNode

/-- The constructor throws an exception for a speed out of its range. -/
structure Params (α : Type*) [Zero α] [OfScientific α] [LT α] where
  linearSpeed : α
  angularSpeed : α
  linearSpeed_valid : ¬ (linearSpeed < 0 ∨ 10.0 < linearSpeed)
  angularSpeed_valid : ¬ (angularSpeed < 0 ∨ 5.0 < angularSpeed)

structure Output (α : Type*) where
  status : Option String
  command : Option (Twist α)
  deriving DecidableEq, Repr

section Loop

variable {α : Type*} [Zero α] [Neg α] [OfScientific α] [LT α]

def initial : TeleopNode α where
  running := true
  linear := 0
  angular := 0

/-- What a key sets. -/
def press (p : Params α) (n : TeleopNode α) : Char → TeleopNode α
  | 'w' => { n with linear := p.linearSpeed }
  | 's' => { n with linear := -p.linearSpeed }
  | 'a' => { n with angular := p.angularSpeed }
  | 'd' => { n with angular := -p.angularSpeed }
  | ' ' => { n with linear := 0, angular := 0 }
  | 'q' => { n with running := false }
  | _ => n

def publishStatus : Char → Option String
  | 'w' => some "Moving forward"
  | 's' => some "Moving backward"
  | 'a' => some "Rotating left"
  | 'd' => some "Rotating right"
  | ' ' => some "Stopping"
  | 'q' => some "Quitting"
  | _ => none

/-- The state after the key of one iteration. -/
def read (p : Params α) (n : TeleopNode α) (c : Option Char) : TeleopNode α :=
  if n.running then c.elim n (n.press p) else n

variable [DecidableEq α]

def command (n : TeleopNode α) : Option (Twist α) :=
  if n.linear ≠ 0 ∨ n.angular ≠ 0 then some ⟨n.linear, n.angular⟩ else none

/-- An event is an iteration of `keyboardLoop` with the key that it reads. -/
def component (p : Params α) : Component (TeleopNode α) (Option Char) (Output α) where
  next n c := n.read p c
  output n c :=
    if n.running then ⟨c.bind publishStatus, (n.read p c).command⟩ else ⟨none, none⟩

omit [Neg α] [OfScientific α] [LT α] in
theorem ne_zero_of_command {n : TeleopNode α} {cmd : Twist α} (h : n.command = some cmd) :
    cmd.linearX ≠ 0 ∨ cmd.angularZ ≠ 0 := by
  unfold command at h
  split at h
  next hmoves =>
    obtain rfl := Option.some.inj h
    exact hmoves
  next => cases h

/-- No command of a run is zero. -/
theorem ne_zero_of_output {p : Params α} {n : TeleopNode α} {c : Option Char} {cmd : Twist α}
    (h : ((component p).output n c).command = some cmd) :
    cmd.linearX ≠ 0 ∨ cmd.angularZ ≠ 0 := by
  change (if _ then (⟨_, _⟩ : Output α) else _).command = some cmd at h
  split at h
  · exact ne_zero_of_command h
  · cases h

/-! ## The stop key -/

/-- The keys that set a speed other than zero. -/
def motionKeys : List Char := ['w', 's', 'a', 'd']

/-- Neither of the speeds is set. -/
def Still (n : TeleopNode α) : Prop := n.linear = 0 ∧ n.angular = 0

omit [Neg α] [OfScientific α] [LT α] in
theorem Still.command {n : TeleopNode α} (h : Still n) : n.command = none := by
  unfold TeleopNode.command
  exact if_neg (not_or.2 ⟨not_not.2 h.1, not_not.2 h.2⟩)

omit [DecidableEq α] in
theorem Still.press {n : TeleopNode α} (h : Still n) (p : Params α) {c : Char}
    (hc : c ∉ motionKeys) : Still (n.press p c) := by
  unfold TeleopNode.press
  split
  case h_1 => exact absurd hc (by decide)
  case h_2 => exact absurd hc (by decide)
  case h_3 => exact absurd hc (by decide)
  case h_4 => exact absurd hc (by decide)
  case h_5 => exact ⟨rfl, rfl⟩
  case h_6 => exact h
  case h_7 => exact h

omit [DecidableEq α] in
theorem Still.read {n : TeleopNode α} (h : Still n) (p : Params α) {c : Option Char}
    (hc : ∀ key ∈ c, key ∉ motionKeys) : Still (n.read p c) := by
  unfold TeleopNode.read
  split
  · cases c with
    | none => exact h
    | some key => exact h.press p (hc key rfl)
  · exact h

/-- The loop has ended, or publishes no command until a further motion key. -/
def Stopped (n : TeleopNode α) : Prop := n.running = true → Still n

omit [DecidableEq α] in
theorem stopped_read_stop (p : Params α) (n : TeleopNode α) : Stopped (n.read p (some ' ')) := by
  by_cases hrunning : n.running = true
  · rw [TeleopNode.read, if_pos hrunning]
    exact fun _ => ⟨rfl, rfl⟩
  · rw [TeleopNode.read, if_neg hrunning]
    exact fun h => absurd h hrunning

omit [DecidableEq α] in
theorem Stopped.read {n : TeleopNode α} (h : Stopped n) (p : Params α) {c : Option Char}
    (hc : ∀ key ∈ c, key ∉ motionKeys) : Stopped (n.read p c) := by
  intro hrunning
  by_cases hn : n.running = true
  · exact (h hn).read p hc
  · rw [TeleopNode.read, if_neg hn] at hrunning
    exact absurd hrunning hn

/-- The stop key publishes no command. -/
theorem output_stop (p : Params α) (n : TeleopNode α) :
    ((component p).output n (some ' ')).command = none := by
  change (if _ then (⟨_, _⟩ : Output α) else _).command = none
  split
  next hrunning =>
    have hstill : Still (n.read p (some ' ')) := by
      rw [TeleopNode.read, if_pos hrunning]
      exact ⟨rfl, rfl⟩
    exact hstill.command
  next => rfl

theorem Stopped.output {n : TeleopNode α} (h : Stopped n) (p : Params α) {c : Option Char}
    (hc : ∀ key ∈ c, key ∉ motionKeys) : ((component p).output n c).command = none := by
  change (if _ then (⟨_, _⟩ : Output α) else _).command = none
  split
  next hrunning => exact ((h hrunning).read p hc).command
  next => rfl

end Loop

end TeleopNode

end SafetyCore
