import Mathlib.Data.List.DropRight
import SafetyCore.Bringup.Readings
import SafetyCore.Arithmetic.Comparison
import SafetyCore.Transition.Component

/-!
# The enhanced localization monitor

`EnhancedLocalizationMonitor` takes a sudden jump of the filtered pose for a kidnapping, and keeps
a confidence: a jump takes it to zero, each further pose restores a tenth, and each check lowers it
for a late pose, an uncertain pose and a missing transform. An exception in a callback ends the
node.
-/

namespace SafetyCore

open Arithmetic Transition

/-- The position of an odometry message with entries 0 and 7 of its covariance. -/
structure EkfOdometry (α : Type*) where
  position : Planar α
  varianceX : α
  varianceY : α

structure EnhancedLocalizationMonitor (α : Type*) [OfScientific α] where
  ekfOdom : Option (EkfOdometry α) := none
  lastUpdateTime : Option ℤ := none
  poseHistory : List (Planar α) := []
  kidnappingDetected : Bool := false
  localizationConfidence : α := 1.0

namespace EnhancedLocalizationMonitor

/-- No callback reads the threshold of the angle. -/
structure Params (α : Type*) [OfScientific α] where
  kidnappingThreshold : α := 2.0
  positionUncertaintyThreshold : α := 1.0
  sensorTimeout : α := 1.0
  historyLength : ℕ := 10

/-- The callbacks with the fields of their messages and the clock readings. A check comes with the
outcome of `lookup_transform`, and the diagnostics come with the outcome of printing the last wheel
and GPS messages: `false` is an exception. The callbacks of those messages do nothing else. -/
inductive Event (α : Type*)
  | ekfOdomCallback (msg : EkfOdometry α) (now : ℤ)
  | checkLocalizationHealth (now : ℤ) (transform : Bool)
  | publishDiagnostics (printed : Bool)

/-- The main status of the diagnostics. -/
structure Diagnostics (α : Type*) where
  level : DiagnosticLevel
  localizationConfidence : α
  kidnappingDetected : Bool
  positionUncertainty : Option α
  ekfPose : Option (Planar α)
  deriving DecidableEq

section Callbacks

variable {α : Type*} [Add α] [Sub α] [Mul α] [Div α] [Zero α] [IntCast α] [OfScientific α]
  [LT α] [DecidableLT α] [SquareRoot α] (p : Params α) (n : EnhancedLocalizationMonitor α)

def distance (prev current : Planar α) : α :=
  Planar.norm ⟨current.x - prev.x, current.y - prev.y⟩

/-- `math.sqrt` raises an exception for a negative number. -/
def getPositionUncertainty (odom : EkfOdometry α) : Option α :=
  if odom.varianceX + odom.varianceY < 0 then none
  else some (sqrt (odom.varianceX + odom.varianceY))

/-- The previous pose is the last but one of the history, if that has two. -/
def checkKidnapping (current : Planar α) : EnhancedLocalizationMonitor α :=
  match n.poseHistory.reverse[1]? with
  | some prev =>
      if p.kidnappingThreshold < distance prev current then
        { n with
          kidnappingDetected := true
          localizationConfidence := 0.0 }
      else
        { n with
          kidnappingDetected := false
          localizationConfidence := stdMin 1.0 (n.localizationConfidence + 0.1) }
  | none => n

/-- The history is a `deque` that holds the last `historyLength` poses. -/
def ekfOdomCallback (msg : EkfOdometry α) (now : ℤ) : EnhancedLocalizationMonitor α :=
  checkKidnapping p
    { n with
      ekfOdom := some msg
      lastUpdateTime := some now
      poseHistory := (n.poseHistory ++ [msg.position]).rtake p.historyLength }
    msg.position

def lower (amount : α) : EnhancedLocalizationMonitor α :=
  { n with localizationConfidence := stdMax 0.0 (n.localizationConfidence - amount) }

def checkTimeout (now : ℤ) : EnhancedLocalizationMonitor α :=
  match n.lastUpdateTime with
  | some t => if p.sensorTimeout < secondsSince t now then n.lower 0.2 else n
  | none => n

def checkUncertainty : Option (EnhancedLocalizationMonitor α) :=
  match n.ekfOdom with
  | some odom => (getPositionUncertainty odom).map fun uncertainty =>
      if p.positionUncertaintyThreshold < uncertainty then n.lower 0.1 else n
  | none => some n

def checkTransform (transform : Bool) : EnhancedLocalizationMonitor α :=
  if transform then n else n.lower 0.3

def checkLocalizationHealth (now : ℤ) (transform : Bool) :
    Option (EnhancedLocalizationMonitor α) :=
  ((n.checkTimeout p now).checkUncertainty p).map (checkTransform · transform)

def level : DiagnosticLevel :=
  if n.kidnappingDetected then .error
  else if n.localizationConfidence < 0.5 then .warn
  else .ok

def publishDiagnostics (printed : Bool) : Option (Diagnostics α) :=
  if printed then
    match n.ekfOdom with
    | some odom => (getPositionUncertainty odom).map fun uncertainty =>
        ⟨n.level, n.localizationConfidence, n.kidnappingDetected, some uncertainty,
          some odom.position⟩
    | none => some ⟨n.level, n.localizationConfidence, n.kidnappingDetected, none, none⟩
  else none

/-- The state is `none` after an exception. -/
def component :
    Component (Option (EnhancedLocalizationMonitor α)) (Event α) (Option (Diagnostics α)) where
  next s
    | .ekfOdomCallback msg now => s.map (ekfOdomCallback p · msg now)
    | .checkLocalizationHealth now transform =>
        s.bind (checkLocalizationHealth p · now transform)
    | .publishDiagnostics printed =>
        s.bind fun n => (n.publishDiagnostics printed).map fun _ => n
  output s
    | .publishDiagnostics printed => s.bind (publishDiagnostics · printed)
    | _ => none

end Callbacks

/-! ## Jumps of the pose -/

def Event.pose {α : Type*} : Event α → Option (Planar α)
  | .ekfOdomCallback msg _ => some msg.position
  | _ => none

section Runs

variable {K : Type*} [Field K] [LinearOrder K] [SquareRoot K] (p : Params K)

/-- The number of poses after the last jump, where the newest pose comes first. -/
def posesSinceJump : List (Planar K) → Option ℕ
  | current :: prev :: older =>
      if p.kidnappingThreshold < distance prev current then some 0
      else (posesSinceJump (prev :: older)).map (· + 1)
  | _ => none

/-- The number of poses that the events have brought since the last jump. -/
def sinceJump (es : List (Event K)) : Option ℕ :=
  posesSinceJump p (es.filterMap Event.pose).reverse

/-- What the node holds after the events `es`. -/
structure Tracks (es : List (Event K)) (n : EnhancedLocalizationMonitor K) : Prop where
  history : n.poseHistory = (es.filterMap Event.pose).rtake p.historyLength
  detected : n.kidnappingDetected = true ↔ 2 ≤ p.historyLength ∧ sinceJump p es = some 0
  nonneg : 0 ≤ n.localizationConfidence
  le_one : n.localizationConfidence ≤ 1
  restored : 2 ≤ p.historyLength → ∀ k ∈ sinceJump p es, n.localizationConfidence ≤ 0.1 * k

omit [Field K] [LinearOrder K] [SquareRoot K] in
theorem poses_concat (es : List (Event K)) {e : Event K} (he : e.pose = none) :
    (es ++ [e]).filterMap Event.pose = es.filterMap Event.pose := by
  rw [List.filterMap_append, List.filterMap_cons_none he, List.filterMap_nil, List.append_nil]

theorem sinceJump_concat (es : List (Event K)) {e : Event K} (he : e.pose = none) :
    sinceJump p (es ++ [e]) = sinceJump p es := by
  rw [sinceJump, poses_concat es he, sinceJump]

variable {p} {es : List (Event K)} {n n' : EnhancedLocalizationMonitor K}

/-- An event without a pose. -/
theorem Tracks.concat_of_pose_eq_none (h : Tracks p es n) {e : Event K} (he : e.pose = none) :
    Tracks p (es ++ [e]) n := by
  have hjump := sinceJump_concat p es he
  exact ⟨h.history.trans (by rw [poses_concat es he]), h.detected.trans (by rw [hjump]), h.nonneg,
    h.le_one, fun hlength k hk => h.restored hlength k (hjump ▸ hk)⟩

/-! ## Checks lower the confidence -/

/-- `n'` is `n` with a confidence that is not higher. -/
def Lowered (n n' : EnhancedLocalizationMonitor K) : Prop :=
  ∃ c, n' = { n with localizationConfidence := c } ∧ 0 ≤ c ∧ c ≤ n.localizationConfidence

omit [SquareRoot K] in
theorem Lowered.refl (h : 0 ≤ n.localizationConfidence) : Lowered n n :=
  ⟨_, rfl, h, le_rfl⟩

omit [SquareRoot K] in
theorem Lowered.trans {n'' : EnhancedLocalizationMonitor K} (h : Lowered n n')
    (h' : Lowered n' n'') : Lowered n n'' := by
  obtain ⟨c, rfl, -, hle⟩ := h
  obtain ⟨c', rfl, hnonneg, hle'⟩ := h'
  exact ⟨c', rfl, hnonneg, hle'.trans hle⟩

omit [SquareRoot K] in
theorem Lowered.nonneg (h : Lowered n n') : 0 ≤ n'.localizationConfidence := by
  obtain ⟨c, rfl, hnonneg, -⟩ := h
  exact hnonneg

theorem Tracks.lowered (h : Tracks p es n) (hlow : Lowered n n') : Tracks p es n' := by
  obtain ⟨c, rfl, hnonneg, hle⟩ := hlow
  exact ⟨h.history, h.detected, hnonneg, hle.trans h.le_one,
    fun hlength k hk => hle.trans (h.restored hlength k hk)⟩

section Checks

variable [IsStrictOrderedRing K]

omit [SquareRoot K] in
theorem lowered_lower (h : 0 ≤ n.localizationConfidence) {amount : K} (hamount : 0 ≤ amount) :
    Lowered n (n.lower amount) := by
  refine ⟨_, rfl, ?_, ?_⟩
  · rw [stdMax_eq_max]
    exact le_max_of_le_left (by norm_num)
  · rw [stdMax_eq_max]
    exact max_le (by norm_num [h]) (sub_le_self _ hamount)

omit [SquareRoot K] in
theorem lowered_checkTimeout (p : Params K) (h : 0 ≤ n.localizationConfidence) (now : ℤ) :
    Lowered n (n.checkTimeout p now) := by
  unfold checkTimeout
  split
  · split
    · exact lowered_lower h (by norm_num)
    · exact .refl h
  · exact .refl h

theorem lowered_checkUncertainty (p : Params K) (h : 0 ≤ n.localizationConfidence)
    (hn' : n.checkUncertainty p = some n') : Lowered n n' := by
  unfold checkUncertainty at hn'
  split at hn'
  · obtain ⟨uncertainty, -, rfl⟩ := Option.map_eq_some_iff.1 hn'
    split
    · exact lowered_lower h (by norm_num)
    · exact .refl h
  · obtain rfl := Option.some.inj hn'
    exact .refl h

omit [SquareRoot K] in
theorem lowered_checkTransform (h : 0 ≤ n.localizationConfidence) (transform : Bool) :
    Lowered n (n.checkTransform transform) := by
  unfold checkTransform
  split
  · exact .refl h
  · exact lowered_lower h (by norm_num)

theorem lowered_checkLocalizationHealth (p : Params K) (h : 0 ≤ n.localizationConfidence)
    {now : ℤ} {transform : Bool} (hn' : n.checkLocalizationHealth p now transform = some n') :
    Lowered n n' := by
  obtain ⟨m, hm, rfl⟩ := Option.map_eq_some_iff.1 hn'
  have htimeout := lowered_checkTimeout p h now
  have huncertainty := htimeout.trans (lowered_checkUncertainty p htimeout.nonneg hm)
  exact huncertainty.trans (lowered_checkTransform huncertainty.nonneg transform)

end Checks

/-! ## Poses -/

theorem posesSinceJump_cons (p : Params K) (current : Planar K) (older : List (Planar K)) :
    posesSinceJump p (current :: older) = older.head?.bind fun prev =>
      if p.kidnappingThreshold < distance prev current then some 0
      else (posesSinceJump p older).map (· + 1) := by
  cases older <;> rfl

theorem sinceJump_concat_pose (p : Params K) (es : List (Event K)) (msg : EkfOdometry K)
    (now : ℤ) : sinceJump p (es ++ [.ekfOdomCallback msg now]) =
      (es.filterMap Event.pose).reverse.head?.bind fun prev =>
        if p.kidnappingThreshold < distance prev msg.position then some 0
        else (sinceJump p es).map (· + 1) := by
  rw [sinceJump, List.filterMap_append, List.reverse_append]
  exact posesSinceJump_cons p msg.position _

/-- The `deque` holds the last poses after one more pose. -/
theorem rtake_rtake_concat {β : Type*} (l : List β) (m : ℕ) (x : β) :
    (l.rtake m ++ [x]).rtake m = (l ++ [x]).rtake m := by
  cases m with
  | zero => rw [List.rtake_zero, List.rtake_zero]
  | succ m =>
      rw [List.rtake_concat_succ, List.rtake_concat_succ, List.rtake_eq_reverse_take_reverse,
        List.rtake_eq_reverse_take_reverse, List.rtake_eq_reverse_take_reverse,
        List.reverse_reverse, List.take_take, min_eq_left (Nat.le_succ m)]

theorem Tracks.history_concat (h : Tracks p es n) (msg : EkfOdometry K) (now : ℤ) :
    (n.poseHistory ++ [msg.position]).rtake p.historyLength =
      ((es ++ [Event.ekfOdomCallback msg now]).filterMap Event.pose).rtake p.historyLength := by
  rw [h.history, rtake_rtake_concat, List.filterMap_append]
  rfl

/-- A history of one pose compares nothing. -/
theorem Tracks.compared (h : Tracks p es n) (x : Planar K) :
    ((n.poseHistory ++ [x]).rtake p.historyLength).reverse[1]? =
      if 2 ≤ p.historyLength then (es.filterMap Event.pose).reverse.head? else none := by
  rw [h.history, rtake_rtake_concat, List.rtake_eq_reverse_take_reverse, List.reverse_reverse,
    List.reverse_append, List.getElem?_take, List.head?_eq_getElem?]
  rfl

theorem Tracks.ekfOdom [IsStrictOrderedRing K] (h : Tracks p es n) (msg : EkfOdometry K)
    (now : ℤ) :
    Tracks p (es ++ [.ekfOdomCallback msg now]) (n.ekfOdomCallback p msg now) := by
  have hhistory := h.history_concat msg now
  have hjump := sinceJump_concat_pose p es msg now
  unfold ekfOdomCallback checkKidnapping
  dsimp only
  rw [h.compared]
  by_cases hlength : 2 ≤ p.historyLength
  case neg =>
    rw [if_neg hlength]
    exact ⟨hhistory, iff_of_false (fun hdetected => hlength (h.detected.1 hdetected).1)
      (fun hboth => hlength hboth.1), h.nonneg, h.le_one, fun hle => absurd hle hlength⟩
  case pos =>
    rw [if_pos hlength]
    cases hprev : (es.filterMap Event.pose).reverse.head? with
    | none =>
        have hnone : sinceJump p es = none := by
          rw [sinceJump, List.head?_eq_none_iff.1 hprev]
          rfl
        rw [hprev, Option.bind_none] at hjump
        refine ⟨hhistory, h.detected.trans (by rw [hjump, hnone]), h.nonneg, h.le_one, ?_⟩
        intro _ k hk
        rw [hjump] at hk
        exact absurd hk nofun
    | some prev =>
        rw [hprev, Option.bind_some] at hjump
        dsimp only
        split_ifs with hfar
        · rw [if_pos hfar] at hjump
          refine ⟨hhistory, by simp [hjump, hlength], by norm_num, by norm_num, fun _ k hk => ?_⟩
          rw [hjump] at hk
          obtain rfl := Option.some.inj hk
          norm_num
        · rw [if_neg hfar] at hjump
          rw [stdMin_eq_min]
          refine ⟨hhistory, by simp [hjump], ?_, ?_, fun _ k hk => ?_⟩
          · exact le_min (by norm_num) (add_nonneg h.nonneg (by norm_num))
          · exact (min_le_left _ _).trans (by norm_num)
          · rw [hjump] at hk
            obtain ⟨j, hj, rfl⟩ := Option.map_eq_some_iff.1 hk
            calc min 1.0 (n.localizationConfidence + 0.1)
                ≤ n.localizationConfidence + 0.1 := min_le_right _ _
              _ ≤ 0.1 * j + 0.1 := by gcongr; exact h.restored hlength j hj
              _ = 0.1 * ((j + 1 : ℕ) : K) := by push_cast; ring

/-- What a pose does to the confidence where the history allows a comparison. -/
theorem Tracks.confidence_ekfOdom (h : Tracks p es n) (hlength : 2 ≤ p.historyLength)
    {msg : EkfOdometry K} {now : ℤ} {k : ℕ}
    (hk : sinceJump p (es ++ [.ekfOdomCallback msg now]) = some k) :
    k = 0 ∧ (n.ekfOdomCallback p msg now).localizationConfidence = 0.0 ∨
      ∃ j, sinceJump p es = some j ∧ k = j + 1 ∧
        (n.ekfOdomCallback p msg now).localizationConfidence =
          min 1.0 (n.localizationConfidence + 0.1) := by
  rw [sinceJump_concat_pose] at hk
  obtain ⟨prev, hprev, hfar⟩ := Option.bind_eq_some_iff.1 hk
  have hcompared := h.compared msg.position
  rw [if_pos hlength, hprev] at hcompared
  unfold ekfOdomCallback checkKidnapping
  dsimp only
  rw [hcompared]
  dsimp only
  split_ifs at hfar ⊢
  · exact .inl ⟨(Option.some.inj hfar).symm, rfl⟩
  · obtain ⟨j, hj, rfl⟩ := Option.map_eq_some_iff.1 hfar
    exact .inr ⟨j, hj, rfl, stdMin_eq_min _ _⟩

/-! ## Runs -/

theorem tracks_run [IsStrictOrderedRing K] (p : Params K) (es : List (Event K)) :
    ∀ n ∈ (component p).run (some {}) es, Tracks p es n := by
  refine Component.run_history (I := fun es s => ∀ n ∈ s, Tracks p es n) ?_ ?_ es
  · rintro _ ⟨⟩
    exact ⟨by simp, by simp [sinceJump, posesSinceJump], by norm_num, by norm_num,
      fun _ k hk => absurd hk nofun⟩
  · intro es e ih n' hn'
    cases e with
    | ekfOdomCallback msg now =>
        obtain ⟨n, hn, rfl⟩ := Option.map_eq_some_iff.1 hn'
        exact (ih n hn).ekfOdom msg now
    | checkLocalizationHealth now transform =>
        obtain ⟨n, hn, hcheck⟩ := Option.bind_eq_some_iff.1 hn'
        exact ((ih n hn).lowered
          (lowered_checkLocalizationHealth p (ih n hn).nonneg hcheck)).concat_of_pose_eq_none rfl
    | publishDiagnostics printed =>
        obtain ⟨n, hn, hpublish⟩ := Option.bind_eq_some_iff.1 hn'
        obtain ⟨d, -, rfl⟩ := Option.map_eq_some_iff.1 hpublish
        exact (ih n hn).concat_of_pose_eq_none rfl

omit [SquareRoot K] in
theorem level_eq_error_iff (n : EnhancedLocalizationMonitor K) :
    n.level = .error ↔ n.kidnappingDetected = true := by
  unfold level
  split_ifs with hdetected hlow <;> simp [hdetected]

omit [SquareRoot K] in
theorem le_of_level_eq_ok (h : n.level = .ok) : 0.5 ≤ n.localizationConfidence := by
  unfold level at h
  split_ifs at h with hdetected hlow
  exact not_lt.1 hlow

theorem publishDiagnostics_eq {printed : Bool} {d : Diagnostics K}
    (h : n.publishDiagnostics printed = some d) :
    d.level = n.level ∧ d.localizationConfidence = n.localizationConfidence := by
  unfold publishDiagnostics at h
  split at h
  · split at h
    · obtain ⟨uncertainty, -, rfl⟩ := Option.map_eq_some_iff.1 h
      exact ⟨rfl, rfl⟩
    · obtain rfl := Option.some.inj h
      exact ⟨rfl, rfl⟩
  · cases h

/-- What a diagnostics message tells about the poses of the run: an error if and only if the last
pose was a jump, and after a jump nothing better than a warning until five further poses. -/
theorem diagnostics_report [IsStrictOrderedRing K] (p : Params K) (es : List (Event K))
    (printed : Bool) (d : Diagnostics K)
    (hd : (component p).output ((component p).run (some {}) es) (.publishDiagnostics printed) =
      some d) :
    (d.level = .error ↔ 2 ≤ p.historyLength ∧ sinceJump p es = some 0) ∧
      (d.level = .ok → 2 ≤ p.historyLength → ∀ k ∈ sinceJump p es, 5 ≤ k) ∧
        0 ≤ d.localizationConfidence ∧ d.localizationConfidence ≤ 1 := by
  obtain ⟨n, hn, hpublish⟩ := Option.bind_eq_some_iff.1 hd
  have h := tracks_run p es n hn
  obtain ⟨hlevel, hconfidence⟩ := publishDiagnostics_eq hpublish
  rw [hlevel, hconfidence]
  refine ⟨(level_eq_error_iff n).trans h.detected, fun hok hlength k hk => ?_, h.nonneg, h.le_one⟩
  have hle : (0.5 : K) ≤ 0.1 * k := (le_of_level_eq_ok hok).trans (h.restored hlength k hk)
  have hfive : (5 : K) ≤ k := by linarith
  exact_mod_cast hfive

/-! ## Recovery -/

variable (p) in
/-- A check finds nothing, and no exception ends the node. -/
def Undisturbed (s : Option (EnhancedLocalizationMonitor K)) (e : Event K) : Prop :=
  e.pose = none → (component p).next s e = s

variable [IsStrictOrderedRing K] {pre post : List (Event K)}

/-- After a jump the poses alone decide about the confidence, until a check lowers it. -/
theorem confidence_of_undisturbed (hlength : 2 ≤ p.historyLength)
    (hjump : sinceJump p pre = some 0)
    (hpost : (component p).Along (Undisturbed p) ((component p).run (some {}) pre) post) :
    ∀ n ∈ (component p).run ((component p).run (some {}) pre) post,
      ∀ k ∈ sinceJump p (pre ++ post), n.localizationConfidence = min 1 (0.1 * (k : K)) := by
  refine hpost.history (I := fun post s => ∀ n ∈ s, ∀ k ∈ sinceJump p (pre ++ post),
    n.localizationConfidence = min 1 (0.1 * (k : K))) ?_ ?_
  · intro n hn k hk
    rw [List.append_nil, hjump] at hk
    obtain rfl := Option.some.inj hk
    have h := tracks_run p pre n hn
    have hle : n.localizationConfidence ≤ 0.1 * ((0 : ℕ) : K) := h.restored hlength 0 hjump
    have hzero : (0.1 : K) * ((0 : ℕ) : K) = 0 := by simp
    rw [hzero] at hle ⊢
    rw [min_eq_right zero_le_one]
    exact le_antisymm hle h.nonneg
  · intro post e _ hquiet ih n' hn' k hk
    rw [← List.append_assoc] at hk
    cases hpose : e.pose with
    | none =>
        rw [hquiet hpose] at hn'
        rw [sinceJump_concat p _ hpose] at hk
        exact ih n' hn' k hk
    | some position =>
        cases e with
        | checkLocalizationHealth => cases hpose
        | publishDiagnostics => cases hpose
        | ekfOdomCallback msg now =>
            obtain ⟨n, hn, rfl⟩ := Option.map_eq_some_iff.1 hn'
            have h : Tracks p (pre ++ post) n := by
              refine tracks_run p (pre ++ post) n ?_
              rw [Component.run_append]
              exact hn
            rcases h.confidence_ekfOdom hlength hk with ⟨rfl, hzero⟩ | ⟨j, hj, rfl, hrestored⟩
            · rw [hzero]
              norm_num
            · rw [hrestored, ih n hn j hj]
              push_cast
              rw [mul_add, mul_one, ← min_add_add_right, ← min_assoc]
              norm_num

/-- While the checks find nothing, the poses since the last jump decide about the level. -/
theorem level_of_undisturbed (p : Params K) (hlength : 2 ≤ p.historyLength)
    (pre post : List (Event K)) (hjump : sinceJump p pre = some 0)
    (hpost : (component p).Along (Undisturbed p) ((component p).run (some {}) pre) post)
    (printed : Bool) (d : Diagnostics K) (hd : (component p).output
      ((component p).run (some {}) (pre ++ post)) (.publishDiagnostics printed) = some d)
    (k : ℕ) (hk : sinceJump p (pre ++ post) = some k) :
    d.level = if k = 0 then .error else if k < 5 then .warn else .ok := by
  obtain ⟨n, hn, hpublish⟩ := Option.bind_eq_some_iff.1 hd
  have h := tracks_run p (pre ++ post) n hn
  rw [Component.run_append] at hn
  have hconfidence := confidence_of_undisturbed hlength hjump hpost n hn k hk
  have hdetected : n.kidnappingDetected = true ↔ k = 0 := by
    rw [h.detected, hk, Option.some.injEq]
    exact and_iff_right hlength
  have hlow : n.localizationConfidence < 0.5 ↔ k < 5 := by
    rw [hconfidence, min_lt_iff]
    constructor
    · rintro (hone | hless)
      · norm_num at hone
      · have hfive : (k : K) < 5 := by linarith
        exact_mod_cast hfive
    · intro hless
      have hfour : (k : K) ≤ 4 := by exact_mod_cast Nat.le_of_lt_succ hless
      exact .inr (by linarith)
  rw [(publishDiagnostics_eq hpublish).1, level, if_congr hdetected rfl rfl,
    if_congr hlow rfl rfl]

end Runs

/-! ## A robot that is carried away -/

section Carried

/-- The distances of this run are 0 and 1, where this is the square root. -/
local instance : SquareRoot ℚ := ⟨fun x => x⟩

/-- One pose before the jump and five after it. -/
def carried : List (Event ℚ) :=
  .ekfOdomCallback ⟨⟨0, 0⟩, 0, 0⟩ 0 ::
    List.replicate 6 (.ekfOdomCallback ⟨⟨1, 0⟩, 0, 0⟩ 1000000000)

def carriedParams : Params ℚ where
  kidnappingThreshold := 0.5

theorem diagnostics_report_carried :
    let d : Diagnostics ℚ := ⟨.ok, 0.5, false, some 0, some ⟨1, 0⟩⟩
    (component carriedParams).output ((component carriedParams).run (some {}) carried)
        (.publishDiagnostics true) = some d ∧
      ∀ k ∈ sinceJump carriedParams carried, 5 ≤ k := by
  intro d
  have hd : (component carriedParams).output ((component carriedParams).run (some {}) carried)
      (.publishDiagnostics true) = some d := by decide +kernel
  exact ⟨hd, (diagnostics_report carriedParams carried true d hd).2.1 rfl (by decide)⟩

theorem level_of_undisturbed_carried :
    let d : Diagnostics ℚ := ⟨.ok, 0.5, false, some 0, some ⟨1, 0⟩⟩
    (component carriedParams).output ((component carriedParams).run (some {}) carried)
        (.publishDiagnostics true) = some d ∧ d.level = .ok := by
  intro d
  have hd : (component carriedParams).output ((component carriedParams).run (some {})
      (carried.take 2 ++ carried.drop 2)) (.publishDiagnostics true) = some d := by
    decide +kernel
  have hlevel := level_of_undisturbed carriedParams (by decide) (carried.take 2) (carried.drop 2)
    (by decide +kernel) ⟨nofun, nofun, nofun, nofun, nofun, trivial⟩ true d hd 5
    (by decide +kernel)
  exact ⟨hd, hlevel.trans (by decide)⟩

end Carried

end EnhancedLocalizationMonitor

end SafetyCore
