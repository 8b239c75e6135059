import SafetyCore.Bringup.Readings
import SafetyCore.Arithmetic.Comparison
import SafetyCore.Transition.Component

/-!
# The adaptive EKF node

`AdaptiveEKFNode` compares the wheel odometry with the IMU and with the visual odometry, and
recommends a process noise: a high one for some time after a slip, and a low one while the wheels
stand still. The noise and the slip are in its diagnostics only.
-/

namespace SafetyCore

open Arithmetic Transition

structure AdaptiveEKFNode (α : Type*) where
  wheelOdom : Option (Planar α) := none
  imuData : Option (Planar α) := none
  visualOdom : Option (Planar α) := none
  lastSlipTime : Option ℤ := none
  lastMovementTime : Option ℤ := none
  currentNoiseLevel : α
  slipDetected : Bool := false

namespace AdaptiveEKFNode

structure Params (α : Type*) [OfScientific α] where
  slipThreshold : α := 0.5
  slipDuration : α := 0.5
  baseProcessNoise : α := 0.05
  slipProcessNoise : α := 0.5
  stationaryThreshold : α := 0.01
  stationaryTime : α := 2.0

/-- The callbacks with the fields of their messages and the clock readings. -/
inductive Event (α : Type*)
  | wheelOdomCallback (linear : Planar α) (now : ℤ)
  | imuCallback (acceleration : Planar α)
  | visualOdomCallback (linear : Planar α)
  | adjustProcessNoise (now : ℤ)
  | publishDiagnostics

structure Diagnostics (α : Type*) where
  level : DiagnosticLevel
  message : String
  currentNoiseLevel : α
  slipDetected : Bool
  wheelSpeed : Option α
  visualSpeed : Option α
  deriving DecidableEq, Repr

section Callbacks

variable {α : Type*} [Add α] [Sub α] [Mul α] [Div α] [Neg α] [Zero α] [IntCast α] [OfScientific α]
  [LT α] [DecidableLT α] [SquareRoot α] (p : Params α) (n : AdaptiveEKFNode α)

def initial : AdaptiveEKFNode α where
  currentNoiseLevel := p.baseProcessNoise

/-- `check_movement` records the time of a moving wheel. -/
def wheelOdomCallback (linear : Planar α) (now : ℤ) : AdaptiveEKFNode α :=
  { n with
    wheelOdom := some linear
    lastMovementTime :=
      if p.stationaryThreshold < linear.norm then some now else n.lastMovementTime }

def imuCallback (acceleration : Planar α) : AdaptiveEKFNode α :=
  { n with imuData := some acceleration }

def visualOdomCallback (linear : Planar α) : AdaptiveEKFNode α :=
  { n with visualOdom := some linear }

/-- `detect_wheel_slip` on the last messages. -/
def slips (wheelOdom imuData visualOdom : Option (Planar α)) : Bool :=
  match wheelOdom with
  | none => false
  | some wheel =>
      (match imuData with
        | some imu => decide (p.slipThreshold < wheel.norm ∧ imu.norm < 0.5)
        | none => false) ||
      match visualOdom with
        | some visual => decide (p.slipThreshold < stdAbs (wheel.norm - visual.norm))
        | none => false

def detectWheelSlip : Bool := slips p n.wheelOdom n.imuData n.visualOdom

/-- The first part of `adjust_process_noise`. -/
def checkSlip (now : ℤ) : AdaptiveEKFNode α :=
  if n.detectWheelSlip p then
    { n with
      lastSlipTime := some now
      slipDetected := true
      currentNoiseLevel := p.slipProcessNoise }
  else
    match n.lastSlipTime with
    | some slip =>
        if secondsSince slip now < p.slipDuration then
          { n with currentNoiseLevel := p.slipProcessNoise }
        else
          { n with
            slipDetected := false
            currentNoiseLevel := p.baseProcessNoise }
    | none =>
        { n with
          slipDetected := false
          currentNoiseLevel := p.baseProcessNoise }

/-- The second part of `adjust_process_noise`. -/
def checkStationary (now : ℤ) : AdaptiveEKFNode α :=
  match n.lastMovementTime with
  | some movement =>
      if p.stationaryTime < secondsSince movement now then
        { n with currentNoiseLevel := p.baseProcessNoise * 0.1 }
      else n
  | none => n

def adjustProcessNoise (now : ℤ) : AdaptiveEKFNode α :=
  (n.checkSlip p now).checkStationary p now

def publishDiagnostics : Diagnostics α where
  level := if n.slipDetected then .warn else .ok
  message := if n.slipDetected then "Wheel slip detected" else "Normal operation"
  currentNoiseLevel := n.currentNoiseLevel
  slipDetected := n.slipDetected
  wheelSpeed := n.wheelOdom.map Planar.norm
  visualSpeed := n.visualOdom.map Planar.norm

def component : Component (AdaptiveEKFNode α) (Event α) (Option (Diagnostics α)) where
  next n
    | .wheelOdomCallback linear now => n.wheelOdomCallback p linear now
    | .imuCallback acceleration => n.imuCallback acceleration
    | .visualOdomCallback linear => n.visualOdomCallback linear
    | .adjustProcessNoise now => n.adjustProcessNoise p now
    | .publishDiagnostics => n
  output n
    | .publishDiagnostics => some n.publishDiagnostics
    | _ => none

end Callbacks

/-! ## What the callbacks have read -/

namespace Event

variable {α : Type*}

def wheel : Event α → Option (Planar α)
  | .wheelOdomCallback linear _ => some linear
  | _ => none

def imu : Event α → Option (Planar α)
  | .imuCallback acceleration => some acceleration
  | _ => none

def visual : Event α → Option (Planar α)
  | .visualOdomCallback linear => some linear
  | _ => none

def adjusted : Event α → Option ℤ
  | .adjustProcessNoise now => some now
  | _ => none

end Event

section History

variable {K : Type*} [Field K] [LinearOrder K] [SquareRoot K] (p : Params K)

/-- The time at which an event finds the wheels moving. -/
def movement : Event K → Option ℤ
  | .wheelOdomCallback linear now =>
      if p.stationaryThreshold < linear.norm then some now else none
  | _ => none

/-- The messages of `es` show a slip. -/
def ShowsSlip (es : List (Event K)) : Prop :=
  slips p (lastValue Event.wheel es) (lastValue Event.imu es) (lastValue Event.visual es) = true

instance (es : List (Event K)) : Decidable (ShowsSlip p es) :=
  inferInstanceAs (Decidable (_ = true))

/-- The times of the adjustments in `es` that found a slip, where `past` came before. -/
def slipTimes (past : List (Event K)) : List (Event K) → List ℤ
  | [] => []
  | e :: es =>
      (if ShowsSlip p past then e.adjusted.toList else []) ++ slipTimes (past ++ [e]) es

theorem slipTimes_append (past es fs : List (Event K)) :
    slipTimes p past (es ++ fs) = slipTimes p past es ++ slipTimes p (past ++ es) fs := by
  induction es generalizing past with
  | nil => simp [slipTimes]
  | cons e es ih => simp [slipTimes, ih]

def lastSlip (es : List (Event K)) : Option ℤ := (slipTimes p [] es).getLast?

theorem lastSlip_concat (es : List (Event K)) (e : Event K) :
    lastSlip p (es ++ [e]) =
      if ShowsSlip p es then e.adjusted.or (lastSlip p es) else lastSlip p es := by
  unfold lastSlip
  rw [slipTimes_append]
  split_ifs with hslip
  · cases h : e.adjusted <;> simp [slipTimes, hslip, h]
  · simp [slipTimes, hslip]

/-- What the node holds after the events `es`. -/
structure Tracks (es : List (Event K)) (n : AdaptiveEKFNode K) : Prop where
  wheel : n.wheelOdom = lastValue Event.wheel es
  imu : n.imuData = lastValue Event.imu es
  visual : n.visualOdom = lastValue Event.visual es
  movement : n.lastMovementTime = lastValue (movement p) es
  slip : n.lastSlipTime = lastSlip p es
  /-- A slip is withdrawn by an adjustment after its duration. -/
  expired : n.slipDetected = false → ∀ t ∈ lastSlip p es,
    ∃ now ∈ es.filterMap Event.adjusted, p.slipDuration ≤ secondsSince t now

variable {p} {es : List (Event K)} {n : AdaptiveEKFNode K}

theorem Tracks.detectWheelSlip_iff (h : Tracks p es n) :
    n.detectWheelSlip p = true ↔ ShowsSlip p es := by
  rw [detectWheelSlip, h.wheel, h.imu, h.visual]
  rfl

/-! ## One adjustment -/

section Adjustment

variable (p n) (now : ℤ)

/-- The last slip is younger than the slip duration. -/
def recovers : Bool := n.lastSlipTime.any fun t => secondsSince t now < p.slipDuration

theorem checkSlip_eq : n.checkSlip p now =
    { n with
      lastSlipTime := if n.detectWheelSlip p = true then some now else n.lastSlipTime
      slipDetected := n.detectWheelSlip p || (n.slipDetected && n.recovers p now)
      currentNoiseLevel :=
        if (n.detectWheelSlip p || n.recovers p now) = true then p.slipProcessNoise
        else p.baseProcessNoise } := by
  unfold checkSlip recovers
  cases n.detectWheelSlip p with
  | true => rfl
  | false =>
      cases n with
      | mk _ _ _ slip =>
          cases slip with
          | none => simp
          | some t => by_cases ht : secondsSince t now < p.slipDuration <;> simp [ht]

omit [SquareRoot K] in
theorem checkStationary_eq : n.checkStationary p now =
    { n with
      currentNoiseLevel :=
        if ∃ t ∈ n.lastMovementTime, p.stationaryTime < secondsSince t now then
          p.baseProcessNoise * 0.1
        else n.currentNoiseLevel } := by
  cases n with
  | mk _ _ _ _ movement =>
      cases movement with
      | none => simp [checkStationary]
      | some t => by_cases ht : p.stationaryTime < secondsSince t now <;> simp [checkStationary, ht]

theorem adjustProcessNoise_eq : n.adjustProcessNoise p now =
    { n with
      lastSlipTime := if n.detectWheelSlip p = true then some now else n.lastSlipTime
      slipDetected := n.detectWheelSlip p || (n.slipDetected && n.recovers p now)
      currentNoiseLevel :=
        if ∃ t ∈ n.lastMovementTime, p.stationaryTime < secondsSince t now then
          p.baseProcessNoise * 0.1
        else if (n.detectWheelSlip p || n.recovers p now) = true then p.slipProcessNoise
        else p.baseProcessNoise } := by
  rw [adjustProcessNoise, checkStationary_eq, checkSlip_eq]

end Adjustment

/-! ## Runs -/

theorem Tracks.recovers_iff (h : Tracks p es n) (now : ℤ) : n.recovers p now = true ↔
    ∃ t ∈ lastSlip p es, secondsSince t now < p.slipDuration := by
  rw [recovers, Option.any_eq_true, h.slip]
  simp only [decide_eq_true_eq]
  rfl

theorem Tracks.adjust (h : Tracks p es n) (now : ℤ) :
    Tracks p (es ++ [.adjustProcessNoise now]) (n.adjustProcessNoise p now) := by
  rw [adjustProcessNoise_eq]
  constructor
  case wheel =>
    rw [lastValue_concat]
    exact h.wheel
  case imu =>
    rw [lastValue_concat]
    exact h.imu
  case visual =>
    rw [lastValue_concat]
    exact h.visual
  case movement =>
    rw [lastValue_concat]
    exact h.movement
  case slip =>
    rw [lastSlip_concat, ← h.slip]
    simp only [h.detectWheelSlip_iff]
    rfl
  case expired =>
    rw [lastSlip_concat, List.filterMap_append]
    intro hnot t ht
    obtain ⟨hquiet, hexpired⟩ := Bool.or_eq_false_iff.1 hnot
    have hshows : ¬ ShowsSlip p es := by
      rw [← h.detectWheelSlip_iff, hquiet]
      exact Bool.false_ne_true
    rw [if_neg hshows] at ht
    cases hdetected : n.slipDetected with
    | false =>
        obtain ⟨a, ha, hle⟩ := h.expired hdetected t ht
        exact ⟨a, List.mem_append_left _ ha, hle⟩
    | true =>
        rw [hdetected, Bool.true_and, ← Bool.not_eq_true, h.recovers_iff] at hexpired
        have hle : ¬ secondsSince t now < p.slipDuration := fun hlt => hexpired ⟨t, ht, hlt⟩
        exact ⟨now, List.mem_append_right _ (List.mem_singleton_self now), not_lt.1 hle⟩

/-- A message leaves the slips as they are. -/
theorem lastSlip_concat_message {e : Event K} (he : e.adjusted = none) :
    lastSlip p (es ++ [e]) = lastSlip p es := by
  rw [lastSlip_concat, he, Option.none_or, ite_self]

/-- A message writes the fields that hold it and leaves the slip as it is. -/
theorem Tracks.message (h : Tracks p es n) {n' : AdaptiveEKFNode K} {e : Event K}
    (he : e.adjusted = none) (hwheel : n'.wheelOdom = e.wheel.or n.wheelOdom)
    (himu : n'.imuData = e.imu.or n.imuData) (hvisual : n'.visualOdom = e.visual.or n.visualOdom)
    (hmovement : n'.lastMovementTime = (AdaptiveEKFNode.movement p e).or n.lastMovementTime)
    (hslip : n'.lastSlipTime = n.lastSlipTime) (hdetected : n'.slipDetected = n.slipDetected) :
    Tracks p (es ++ [e]) n' := by
  constructor
  case wheel => rw [lastValue_concat, hwheel, h.wheel]
  case imu => rw [lastValue_concat, himu, h.imu]
  case visual => rw [lastValue_concat, hvisual, h.visual]
  case movement => rw [lastValue_concat, hmovement, h.movement]
  case slip => rw [lastSlip_concat_message he, hslip, h.slip]
  case expired =>
    intro hnot t ht
    rw [lastSlip_concat_message he] at ht
    obtain ⟨a, ha, hle⟩ := h.expired (hdetected ▸ hnot) t ht
    rw [List.filterMap_append]
    exact ⟨a, List.mem_append_left _ ha, hle⟩

theorem Tracks.next (h : Tracks p es n) (e : Event K) :
    Tracks p (es ++ [e]) ((component p).next n e) := by
  cases e with
  | adjustProcessNoise now => exact h.adjust now
  | wheelOdomCallback linear now =>
      refine h.message rfl rfl rfl rfl ?_ rfl rfl
      change (if _ then _ else _) = Option.or (if _ then _ else _) _
      split <;> rfl
  | imuCallback acceleration => exact h.message rfl rfl rfl rfl rfl rfl rfl
  | visualOdomCallback linear => exact h.message rfl rfl rfl rfl rfl rfl rfl
  | publishDiagnostics => exact h.message rfl rfl rfl rfl rfl rfl rfl

omit [LinearOrder K] in
theorem publishDiagnostics_level_iff (n : AdaptiveEKFNode K) :
    n.publishDiagnostics.level = .warn ↔ n.slipDetected = true := by
  cases h : n.slipDetected <;> simp [publishDiagnostics, h]

theorem tracks_run (p : Params K) (es : List (Event K)) :
    Tracks p es ((component p).run (initial p) es) :=
  Component.run_history ⟨rfl, rfl, rfl, rfl, rfl, fun _ _ => nofun⟩ (fun _ e h => h.next e) es

/-- Diagnostics after an adjustment warn of a slip if the last messages show one, or an adjustment
found one within the slip duration. Where the wheels have stood still for long enough the noise is
low all the same. -/
theorem adjust_reports [IsStrictOrderedRing K] (p : Params K) (es : List (Event K)) (now : ℤ)
    (hclock : ∀ earlier ∈ es.filterMap Event.adjusted, earlier ≤ now) :
    let n := (component p).run (initial p) (es ++ [.adjustProcessNoise now])
    let d := n.publishDiagnostics
    (d.level = .warn ↔
        ShowsSlip p es ∨ ∃ t ∈ lastSlip p es, secondsSince t now < p.slipDuration) ∧
      d.currentNoiseLevel =
        if ∃ t ∈ lastValue (movement p) es, p.stationaryTime < secondsSince t now then
          p.baseProcessNoise * 0.1
        else if d.level = .warn then p.slipProcessNoise
        else p.baseProcessNoise := by
  intro n d
  have hlevel : d.level = .warn ↔ n.slipDetected = true := publishDiagnostics_level_iff n
  have h := tracks_run p es
  have hn : n = ((component p).run (initial p) es).adjustProcessNoise p now :=
    (component p).run_concat (initial p) es (.adjustProcessNoise now)
  rw [adjustProcessNoise_eq] at hn
  have hslip : n.slipDetected = true ↔
      ShowsSlip p es ∨ ∃ t ∈ lastSlip p es, secondsSince t now < p.slipDuration := by
    rw [hn, Bool.or_eq_true, h.detectWheelSlip_iff, Bool.and_eq_true, h.recovers_iff]
    refine or_congr_right (and_iff_right_of_imp ?_)
    -- a slip that was withdrawn is older than the duration by now
    rintro ⟨t, ht, hlt⟩
    by_contra hnot
    obtain ⟨earlier, hearlier, hle⟩ := h.expired (Bool.not_eq_true _ ▸ hnot) t ht
    exact absurd hlt (not_lt.2 (hle.trans (secondsSince_le t (hclock earlier hearlier))))
  refine ⟨hlevel.trans hslip, ?_⟩
  have hwarns : d.level = .warn ↔ (((component p).run (initial p) es).detectWheelSlip p ||
      ((component p).run (initial p) es).recovers p now) = true := by
    rw [hlevel, hslip, Bool.or_eq_true, h.detectWheelSlip_iff, h.recovers_iff]
  rw [if_congr hwarns rfl rfl, ← h.movement]
  change n.currentNoiseLevel = _
  rw [hn]

end History

/-! ## A robot that slides with its wheels locked -/

section Sliding

/-- The speeds of this run are 0 and 1, where this is the square root. -/
local instance : SquareRoot ℚ := ⟨fun x => x⟩

/-- The wheels stop after the first message, and the robot does not. -/
def sliding : List (Event ℚ) :=
  [.wheelOdomCallback ⟨1, 0⟩ 0, .visualOdomCallback ⟨1, 0⟩, .wheelOdomCallback ⟨0, 0⟩ 1000000000]

theorem adjust_reports_sliding :
    let n := (component ({} : Params ℚ)).run (initial {})
      (sliding ++ [.adjustProcessNoise 3000000000])
    n.publishDiagnostics.level = .warn ∧ n.publishDiagnostics.currentNoiseLevel = 0.005 := by
  obtain ⟨hslip, hnoise⟩ := adjust_reports ({} : Params ℚ) sliding 3000000000 (by decide)
  refine ⟨hslip.2 (.inl (by decide +kernel)), hnoise.trans ?_⟩
  rw [if_pos ⟨0, by decide +kernel, by decide +kernel⟩]
  norm_num

end Sliding

end AdaptiveEKFNode

end SafetyCore
