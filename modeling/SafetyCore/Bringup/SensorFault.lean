import Mathlib.Data.Rat.Sqrt
import SafetyCore.Bringup.Readings
import SafetyCore.Arithmetic.Comparison
import SafetyCore.Transition.Component

/-!
# The sensor fault detector

`SensorFaultDetector` takes a sensor for faulty after a message with values out of range, and when
a check finds its last message older than the timeout. Each further message decides anew. A value
whose square is out of the range of the floats raises an exception, which no callback handles: it
ends the node.
-/

namespace SafetyCore

open Arithmetic Transition

namespace SensorFaultDetector

/-- The keys of `sensor_status`, in order. -/
inductive Sensor
  | wheelOdom
  | imu
  | gps
  | visualOdom
  deriving DecidableEq, Repr

def Sensor.all : List Sensor := [.wheelOdom, .imu, .gps, .visualOdom]

def Sensor.name : Sensor → String
  | .wheelOdom => "wheel_odom"
  | .imu => "imu"
  | .gps => "gps"
  | .visualOdom => "visual_odom"

structure SensorStatus where
  lastTime : Option ℤ := none
  fault : Bool := false
  faultCount : ℕ := 0
  deriving DecidableEq, Repr

structure Params (α : Type*) [OfScientific α] where
  sensorTimeout : α := 1.0
  maxAcceleration : α := 10.0
  maxAngularVelocity : α := 10.0
  maxGpsVariance : α := 100.0

structure Spatial (α : Type*) where
  x : α
  y : α
  z : α
  deriving DecidableEq, Repr

section Norms

variable {α : Type*} [Add α] [Mul α] [SquareRoot α] [FiniteTest α]

/-- `x**2`, which raises `OverflowError` if `x` is finite and its square is not. -/
def square (x : α) : Option α := if isFinite x && !isFinite (x * x) then none else some (x * x)

/-- `math.sqrt(x**2 + y**2)`. -/
def planarNorm (v : Planar α) : Option α := do
  let x ← square v.x
  let y ← square v.y
  return sqrt (x + y)

/-- `math.sqrt(x**2 + y**2 + z**2)`. -/
def Spatial.norm (v : Spatial α) : Option α := do
  let x ← square v.x
  let y ← square v.y
  let z ← square v.z
  return sqrt (x + y + z)

/-- The square of `x` is out of range. -/
def Overflows (x : α) : Prop := isFinite x = true ∧ isFinite (x * x) = false

omit [Add α] [SquareRoot α] in
theorem square_eq_none_iff {x : α} : square x = none ↔ Overflows x := by
  unfold square Overflows
  rw [ite_eq_left_iff]
  simp

theorem planarNorm_eq_none_iff {v : Planar α} :
    planarNorm v = none ↔ ∃ x ∈ [v.x, v.y], Overflows x := by
  unfold planarNorm
  simp only [List.mem_cons, List.not_mem_nil, or_false, exists_eq_or_imp, exists_eq_left,
    ← square_eq_none_iff]
  cases square v.x <;> cases square v.y <;> simp

theorem Spatial.norm_eq_none_iff {v : Spatial α} :
    v.norm = none ↔ ∃ x ∈ [v.x, v.y, v.z], Overflows x := by
  unfold Spatial.norm
  simp only [List.mem_cons, List.not_mem_nil, or_false, exists_eq_or_imp, exists_eq_left,
    ← square_eq_none_iff]
  cases square v.x <;> cases square v.y <;> cases square v.z <;> simp

end Norms

/-- The callbacks with the fields of their messages and the clock readings. The diagnostics read
the clock for every sensor. -/
inductive Event (α : Type*)
  | wheelOdomCallback (linear : Planar α) (angularZ : α) (now : ℤ)
  | imuCallback (acceleration angularVelocity : Spatial α) (now : ℤ)
  | gpsCallback (status : Int8) (variance : α) (now : ℤ)
  | visualOdomCallback (linear : Planar α) (now : ℤ)
  | checkSensorFaults (now : ℤ)
  | publishDiagnostics (now : Sensor → ℤ)

structure Diagnostics (α : Type*) where
  name : String
  level : DiagnosticLevel
  message : String
  faultDetected : Bool
  faultCount : ℕ
  timeSinceUpdate : Option α
  deriving DecidableEq, Repr

end SensorFaultDetector

open SensorFaultDetector in
structure SensorFaultDetector where
  sensorStatus : Sensor → SensorStatus

namespace SensorFaultDetector

def initial : SensorFaultDetector where
  sensorStatus _ := {}

/-- What a message does to the status of its sensor. -/
def SensorStatus.update (status : SensorStatus) (faulty : Bool) (now : ℤ) : SensorStatus where
  lastTime := some now
  fault := faulty
  faultCount := if faulty then status.faultCount + 1 else status.faultCount

section Callbacks

variable {α : Type*} [Add α] [Mul α] [Div α] [Neg α] [Zero α] [IntCast α] [OfScientific α]
  [LT α] [DecidableLT α] [SquareRoot α] [FiniteTest α] (p : Params α) (n : SensorFaultDetector)

def wheelOdomFault (linear : Planar α) (angularZ : α) : Option Bool :=
  (planarNorm linear).map fun linearSpeed =>
    decide (10.0 < linearSpeed ∨ 10.0 < stdAbs angularZ)

def imuFault (acceleration angularVelocity : Spatial α) : Option Bool :=
  acceleration.norm.bind fun accel => angularVelocity.norm.map fun angularVel =>
    decide (p.maxAcceleration < accel) || decide (p.maxAngularVelocity < angularVel)

/-- A negative status is no fix. -/
def gpsFault (status : Int8) (variance : α) : Bool :=
  decide (status < 0) || decide (p.maxGpsVariance < variance)

def visualOdomFault (linear : Planar α) : Option Bool :=
  (planarNorm linear).map fun linearSpeed => decide (10.0 < linearSpeed)

def onMessage (sensor : Sensor) (faulty : Bool) (now : ℤ) : SensorFaultDetector where
  sensorStatus := Function.update n.sensorStatus sensor
    ((n.sensorStatus sensor).update faulty now)

theorem onMessage_self (n : SensorFaultDetector) (sensor : Sensor) (faulty : Bool) (now : ℤ) :
    (n.onMessage sensor faulty now).sensorStatus sensor =
      (n.sensorStatus sensor).update faulty now :=
  Function.update_self ..

theorem onMessage_of_ne (n : SensorFaultDetector) {sensor sensor' : Sensor}
    (h : sensor ≠ sensor') (faulty : Bool) (now : ℤ) :
    (n.onMessage sensor' faulty now).sensorStatus sensor = n.sensorStatus sensor :=
  Function.update_of_ne h ..

def wheelOdomCallback (linear : Planar α) (angularZ : α) (now : ℤ) :
    Option SensorFaultDetector :=
  (wheelOdomFault linear angularZ).map (n.onMessage .wheelOdom · now)

def imuCallback (acceleration angularVelocity : Spatial α) (now : ℤ) :
    Option SensorFaultDetector :=
  (imuFault p acceleration angularVelocity).map (n.onMessage .imu · now)

def gpsCallback (status : Int8) (variance : α) (now : ℤ) : SensorFaultDetector :=
  n.onMessage .gps (gpsFault p status variance) now

def visualOdomCallback (linear : Planar α) (now : ℤ) : Option SensorFaultDetector :=
  (visualOdomFault linear).map (n.onMessage .visualOdom · now)

def timedOut (status : SensorStatus) (now : ℤ) : Bool :=
  status.lastTime.any fun t => decide (p.sensorTimeout < secondsSince t now)

def checkSensorFaults (now : ℤ) : SensorFaultDetector where
  sensorStatus sensor :=
    let status := n.sensorStatus sensor
    if timedOut p status now then
      { status with fault := true, faultCount := status.faultCount + 1 }
    else status

def diagnosticsOf (α : Type*) [Div α] [IntCast α] [OfScientific α] (n : SensorFaultDetector)
    (sensor : Sensor) (now : ℤ) : Diagnostics α :=
  let status := n.sensorStatus sensor
  { name := "Sensor Fault Detector - " ++ sensor.name
    level := if status.fault then .warn else .ok
    message :=
      if status.fault then
        "Sensor fault detected (count: " ++ toString status.faultCount ++ ")"
      else "Normal operation"
    faultDetected := status.fault
    faultCount := status.faultCount
    timeSinceUpdate := status.lastTime.map (secondsSince · now) }

omit [Add α] [Mul α] [Neg α] [Zero α] [LT α] [DecidableLT α] [SquareRoot α] [FiniteTest α] in
theorem diagnosticsOf_level_iff (sensor : Sensor) (now : ℤ) :
    (n.diagnosticsOf α sensor now).level = .warn ↔ (n.sensorStatus sensor).fault = true := by
  change (if (n.sensorStatus sensor).fault = true then DiagnosticLevel.warn else .ok) = .warn ↔ _
  split
  next hfault => exact iff_of_true rfl hfault
  next hclear => exact iff_of_false nofun hclear

/-- The node after a callback, unless an exception has ended it. -/
def handle : Event α → Option SensorFaultDetector
  | .wheelOdomCallback linear angularZ now => n.wheelOdomCallback linear angularZ now
  | .imuCallback acceleration angularVelocity now =>
      n.imuCallback p acceleration angularVelocity now
  | .gpsCallback status variance now => some (n.gpsCallback p status variance now)
  | .visualOdomCallback linear now => n.visualOdomCallback linear now
  | .checkSensorFaults now => some (n.checkSensorFaults p now)
  | .publishDiagnostics _ => some n

/-- A node that has ended runs no callback. -/
def component : Component (Option SensorFaultDetector) (Event α) (Option (List (Diagnostics α)))
    where
  next node e := node.bind fun n => n.handle p e
  output node
    | .publishDiagnostics now =>
        node.map fun n => Sensor.all.map fun sensor => n.diagnosticsOf α sensor (now sensor)
    | _ => none

/-! ## Exceptions -/

/-- The values that a callback squares. -/
def squared : Event α → List α
  | .wheelOdomCallback linear _ _ => [linear.x, linear.y]
  | .imuCallback acceleration angularVelocity _ =>
      [acceleration.x, acceleration.y, acceleration.z] ++
        [angularVelocity.x, angularVelocity.y, angularVelocity.z]
  | .visualOdomCallback linear _ => [linear.x, linear.y]
  | _ => []

/-- The message holds a value whose square is out of range. -/
def Raises (e : Event α) : Prop := ∃ x ∈ squared e, Overflows x

omit [Neg α] [Zero α] [Div α] [IntCast α] in
theorem imuFault_eq_none_iff {acceleration angularVelocity : Spatial α} :
    imuFault p acceleration angularVelocity = none ↔
      acceleration.norm = none ∨ angularVelocity.norm = none := by
  unfold imuFault
  cases acceleration.norm <;> cases angularVelocity.norm <;> simp

theorem handle_eq_none_iff {e : Event α} : n.handle p e = none ↔ Raises e := by
  cases e with
  | wheelOdomCallback linear angularZ now =>
      exact Option.map_eq_none_iff.trans (Option.map_eq_none_iff.trans planarNorm_eq_none_iff)
  | imuCallback acceleration angularVelocity now =>
      refine Option.map_eq_none_iff.trans ((imuFault_eq_none_iff p).trans ?_)
      rw [Spatial.norm_eq_none_iff, Spatial.norm_eq_none_iff, Raises, squared]
      simp only [List.mem_append, or_and_right, exists_or]
  | visualOdomCallback linear now =>
      exact Option.map_eq_none_iff.trans (Option.map_eq_none_iff.trans planarNorm_eq_none_iff)
  | _ => exact iff_of_false nofun (by rintro ⟨x, hx, -⟩; cases hx)

/-- The node has ended exactly if a message has raised an exception. -/
theorem run_eq_none_iff (es : List (Event α)) :
    (component p).run (some n) es = none ↔ ∃ e ∈ es, Raises e := by
  induction es using List.reverseRecOn with
  | nil => simp
  | append_singleton es e ih =>
      have hexists : (∃ e' ∈ es ++ [e], Raises e') ↔ (∃ e' ∈ es, Raises e') ∨ Raises e := by
        simp only [List.mem_append, List.mem_singleton, or_and_right, exists_or, exists_eq_left]
      rw [Component.run_concat, hexists, ← ih]
      cases hrun : (component p).run (some n) es with
      | none => exact iff_of_true rfl (.inl rfl)
      | some n' => exact (handle_eq_none_iff p n').trans (or_iff_right nofun).symm

/-! ## The messages of a sensor -/

/-- The sensor of a message that raises no exception, with the time of the message and its
verdict. -/
def reading : Event α → Option (Sensor × ℤ × Bool)
  | .wheelOdomCallback linear angularZ now =>
      (wheelOdomFault linear angularZ).map (.wheelOdom, now, ·)
  | .imuCallback acceleration angularVelocity now =>
      (imuFault p acceleration angularVelocity).map (.imu, now, ·)
  | .gpsCallback status variance now => some (.gps, now, gpsFault p status variance)
  | .visualOdomCallback linear now => (visualOdomFault linear).map (.visualOdom, now, ·)
  | .checkSensorFaults _ => none
  | .publishDiagnostics _ => none

/-- The last message of a sensor in `es` came at `t` with a verdict, before the events `post`. -/
def LastReading (sensor : Sensor) (es : List (Event α)) (t : ℤ) (faulty : Bool)
    (post : List (Event α)) : Prop :=
  ∃ pre e, es = pre ++ e :: post ∧ reading p e = some (sensor, t, faulty) ∧
    ∀ e' ∈ post, ∀ t' faulty', reading p e' ≠ some (sensor, t', faulty')

/-- A check among the events finds the time `t` too old. -/
def FindsTimeout (t : ℤ) (post : List (Event α)) : Prop :=
  ∃ now, .checkSensorFaults now ∈ post ∧ p.sensorTimeout < secondsSince t now

/-- What the status of a sensor holds after the events `es`. -/
def Tracks (sensor : Sensor) (es : List (Event α)) (status : SensorStatus) : Prop :=
  status.lastTime = none ∧ status.fault = false ∧
      (∀ e ∈ es, ∀ t faulty, reading p e ≠ some (sensor, t, faulty)) ∨
    ∃ t faulty post, LastReading p sensor es t faulty post ∧ status.lastTime = some t ∧
      (status.fault = true ↔ faulty = true ∨ FindsTimeout p t post)

variable {p} {sensor : Sensor} {es : List (Event α)} {status : SensorStatus} {e : Event α}

omit [Div α] [IntCast α] in
/-- There is one last message. -/
theorem LastReading.unique {t t' : ℤ} {faulty faulty' : Bool} {post post' : List (Event α)}
    (h : LastReading p sensor es t faulty post) (h' : LastReading p sensor es t' faulty' post') :
    t = t' ∧ faulty = faulty' ∧ post = post' := by
  obtain ⟨pre, e, rfl, he, hpost⟩ := h
  obtain ⟨pre', e', heq, he', hpost'⟩ := h'
  rcases List.append_eq_append_iff.1 heq with ⟨between, -, hrest⟩ | ⟨between, -, hrest⟩
  · cases between with
    | nil =>
        cases hrest
        cases he.symm.trans he'
        exact ⟨rfl, rfl, rfl⟩
    | cons _ between =>
        cases hrest
        exact absurd he' (hpost e' (List.mem_append_right _ List.mem_cons_self) _ _)
  · cases between with
    | nil =>
        cases hrest
        cases he.symm.trans he'
        exact ⟨rfl, rfl, rfl⟩
    | cons _ between =>
        cases hrest
        exact absurd he (hpost' e (List.mem_append_right _ List.mem_cons_self) _ _)

theorem handle_of_reading {t : ℤ} {faulty : Bool} {sensor' : Sensor}
    (he : reading p e = some (sensor', t, faulty)) :
    n.handle p e = some (n.onMessage sensor' faulty t) := by
  cases e with
  | wheelOdomCallback | imuCallback | visualOdomCallback =>
      obtain ⟨verdict, hverdict, heq⟩ := Option.map_eq_some_iff.1 he
      cases heq
      exact congrArg (Option.map _) hverdict
  | gpsCallback =>
      cases he
      rfl
  | _ => cases he

/-- The other callbacks of a node that goes on. -/
theorem handle_of_no_reading {n' : SensorFaultDetector} (he : reading p e = none)
    (hn : n.handle p e = some n') :
    (∃ now, e = .checkSensorFaults now ∧ n' = n.checkSensorFaults p now) ∨
      ∃ now, e = .publishDiagnostics now ∧ n' = n := by
  cases e with
  | wheelOdomCallback | imuCallback | visualOdomCallback =>
      obtain ⟨verdict, hverdict, -⟩ := Option.map_eq_some_iff.1 hn
      rw [reading, hverdict] at he
      cases he
  | gpsCallback => cases he
  | checkSensorFaults now => exact .inl ⟨now, rfl, (Option.some.inj hn).symm⟩
  | publishDiagnostics now => exact .inr ⟨now, rfl, (Option.some.inj hn).symm⟩

theorem tracks_reading (es : List (Event α)) (status : SensorStatus) {t : ℤ} {faulty : Bool}
    (he : reading p e = some (sensor, t, faulty)) :
    Tracks p sensor (es ++ [e]) (status.update faulty t) := by
  refine .inr ⟨t, faulty, [], ⟨es, e, rfl, he, nofun⟩, rfl, ?_⟩
  exact (or_iff_left (by rintro ⟨_, hmem, -⟩; cases hmem)).symm

/-- An event that is no message of the sensor. -/
theorem tracks_other (h : Tracks p sensor es status)
    (he : ∀ t faulty, reading p e ≠ some (sensor, t, faulty)) {fault : Bool} {faultCount : ℕ}
    (hfault : fault = true ↔ status.fault = true ∨
      ∃ now, e = .checkSensorFaults now ∧ timedOut p status now = true) :
    Tracks p sensor (es ++ [e])
      { status with fault := fault, faultCount := faultCount } := by
  rcases h with ⟨hnone, hclear, hes⟩ | ⟨t, faulty, post, ⟨pre, e', rfl, he', hpost⟩, hlast, hiff⟩
  · refine .inl ⟨hnone, ?_, ?_⟩
    · rw [← Bool.not_eq_true, hfault, hclear]
      rintro (hfalse | ⟨now, -, htimeout⟩)
      · cases hfalse
      · rw [timedOut, hnone] at htimeout
        cases htimeout
    · rw [List.forall_mem_append]
      exact ⟨hes, List.forall_mem_singleton.2 he⟩
  · refine .inr ⟨t, faulty, post ++ [e], ⟨pre, e', by simp, he', ?_⟩, hlast, ?_⟩
    · rw [List.forall_mem_append]
      exact ⟨hpost, List.forall_mem_singleton.2 he⟩
    · rw [hfault, hiff, or_assoc]
      refine or_congr_right ?_
      unfold FindsTimeout timedOut
      rw [hlast]
      simp only [List.mem_append, List.mem_singleton, Option.any_some, decide_eq_true_eq,
        or_and_right, exists_or]
      refine or_congr_right (exists_congr fun now => and_congr_left fun _ => eq_comm)

theorem Tracks.handle (h : Tracks p sensor es (n.sensorStatus sensor))
    {n' : SensorFaultDetector} (hn : n.handle p e = some n') :
    Tracks p sensor (es ++ [e]) (n'.sensorStatus sensor) := by
  cases hreading : reading p e with
  | some r =>
      obtain ⟨sensor', t, faulty⟩ := r
      obtain rfl := Option.some.inj ((handle_of_reading n hreading).symm.trans hn)
      by_cases hsensor : sensor = sensor'
      · obtain rfl := hsensor
        rw [onMessage_self]
        exact tracks_reading es _ hreading
      · rw [onMessage_of_ne n hsensor]
        refine tracks_other h (fun t' faulty' he => ?_) ?_
        · rw [hreading] at he
          cases he
          exact hsensor rfl
        · refine (or_iff_left ?_).symm
          rintro ⟨now, rfl, -⟩
          cases hreading
  | none =>
      have he : ∀ t faulty, reading p e ≠ some (sensor, t, faulty) := by
        rw [hreading]
        nofun
      rcases handle_of_no_reading n hreading hn with ⟨now, rfl, rfl⟩ | ⟨now, rfl, rfl⟩
      · change Tracks p sensor _
          (if timedOut p (n.sensorStatus sensor) now then _ else n.sensorStatus sensor)
        split
        next htimeout =>
          exact tracks_other h he (iff_of_true rfl (.inr ⟨now, rfl, htimeout⟩))
        next hfresh =>
          refine tracks_other h he (or_iff_left ?_).symm
          rintro ⟨now', hnow, htimeout⟩
          cases hnow
          exact hfresh htimeout
      · exact tracks_other h he (or_iff_left nofun).symm

theorem tracks_run (p : Params α) {es : List (Event α)} {n : SensorFaultDetector}
    (hrun : (component p).run (some initial) es = some n) (sensor : Sensor) :
    Tracks p sensor es (n.sensorStatus sensor) := by
  revert n
  refine Component.run_history (C := component p)
    (I := fun es node => ∀ {n}, node = some n → Tracks p sensor es (n.sensorStatus sensor))
    ?_ ?_ es
  · rintro n ⟨⟩
    exact .inl ⟨rfl, rfl, nofun⟩
  · intro es e ih n' hnext
    obtain ⟨n, hn, hhandle⟩ := Option.bind_eq_some_iff.1 hnext
    exact (ih hn).handle n hhandle

/-- The node ends exactly if a message holds a finite value whose square is out of range. Until
then a sensor is reported exactly if its last message was out of range, or a check since has found
that message too old, so a sensor that has sent no message is never reported. -/
theorem warns_iff (p : Params α) (es : List (Event α)) :
    ((component p).run (some initial) es = none ↔ ∃ e ∈ es, Raises e) ∧
    ∀ n, (component p).run (some initial) es = some n → ∀ (sensor : Sensor) (now : ℤ),
      ((n.diagnosticsOf α sensor now).level = .warn ↔
        ∃ t faulty post, LastReading p sensor es t faulty post ∧
          (faulty = true ∨ FindsTimeout p t post)) := by
  refine ⟨run_eq_none_iff p initial es, fun n hrun sensor now => ?_⟩
  have htracks := tracks_run p hrun sensor
  rw [diagnosticsOf_level_iff]
  rcases htracks with ⟨-, hclear, hes⟩ | ⟨t, faulty, post, hlast, -, hiff⟩
  · rw [hclear]
    refine iff_of_false Bool.false_ne_true ?_
    rintro ⟨t, faulty, post, ⟨pre, e, rfl, he, -⟩, -⟩
    exact hes e (List.mem_append_right _ List.mem_cons_self) t faulty he
  · rw [hiff]
    constructor
    · exact fun h => ⟨t, faulty, post, hlast, h⟩
    · rintro ⟨t', faulty', post', hlast', h⟩
      obtain ⟨rfl, rfl, rfl⟩ := hlast.unique hlast'
      exact h

end Callbacks

section Example

local instance : SquareRoot ℚ := ⟨Rat.sqrt⟩

/-- The wheels report 15 m/s and the GPS has a fix, and a check half a second later finds both in
time. -/
def fastWheelRun : List (Event ℚ) :=
  [.wheelOdomCallback ⟨9, 12⟩ 0 0, .gpsCallback 0 1 0, .checkSensorFaults 500000000]

/-- The wheel odometry is reported, and the IMU, which has sent nothing, is not. -/
theorem warns_iff_fastWheelRun :
    ∃ n, (component ({} : Params ℚ)).run (some initial) fastWheelRun = some n ∧
      (n.diagnosticsOf ℚ .wheelOdom 500000000).level = .warn ∧
      (n.diagnosticsOf ℚ .imu 500000000).level ≠ .warn := by
  obtain ⟨hends, hwarns⟩ := warns_iff ({} : Params ℚ) fastWheelRun
  have hgoes : (component ({} : Params ℚ)).run (some initial) fastWheelRun ≠ none := by
    rw [ne_eq, hends]
    rintro ⟨e, -, x, -, -, hinfinite⟩
    cases hinfinite
  obtain ⟨n, hn⟩ := Option.ne_none_iff_exists'.1 hgoes
  refine ⟨n, hn, (hwarns n hn .wheelOdom 500000000).2 ?_,
    mt (hwarns n hn .imu 500000000).1 ?_⟩
  · refine ⟨0, true, _, ⟨[], _, rfl, by decide +kernel, ?_⟩, .inl rfl⟩
    simp [reading]
  · rintro ⟨t, faulty, post, ⟨pre, e, heq, he, -⟩, -⟩
    have hmem : e ∈ fastWheelRun := by simp [heq]
    have hother : ∀ e ∈ fastWheelRun, ∀ t faulty,
        reading ({} : Params ℚ) e ≠ some (.imu, t, faulty) := by
      simp [fastWheelRun, reading]
    exact hother e hmem t faulty he

end Example

end SensorFaultDetector

end SafetyCore
