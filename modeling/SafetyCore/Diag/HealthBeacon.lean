import SafetyCore.Collections.Throttle
import SafetyCore.Diag.DiagnosticEvent
import SafetyCore.StateMachine.Mode
import SafetyCore.Text.Labeled
import SafetyCore.Transition.Component

/-!
# The health beacon

`HealthBeaconPublisher` publishes a diagnostic event with the health of the system, at most once
in a period. `component` is the publisher driven by its calls; the time point of a call is its
count of nanoseconds.

The payload holds the whole report and gives it back. Over a run of calls the beacons follow the
period: no two are closer, and as long as calls come often enough, none is late.
-/

namespace SafetyCore

open Text Transition

/-- The values of the enumeration. -/
def Mode.toRaw : Mode → UInt64
  | .init => 0
  | .idle => 1
  | .moving => 2
  | .degraded => 3
  | .avoidingObstacle => 4
  | .localizationLost => 5
  | .docking => 6
  | .safeStop => 7

/-- What a call reports. -/
structure Health where
  mode : Mode
  faultLatched : Bool
  watchdogLagNs : UInt64
  topicTruncations : UInt64
  payloadTruncations : UInt64
  deriving DecidableEq, Repr

/-- The transport is attached or null. -/
structure HealthBeaconPublisher where
  hasTransport : Bool := false
  period : ℤ := 0
  lastPublish : ℤ := 0
  hasPublished : Bool := false
  deriving DecidableEq, Repr

namespace HealthBeaconPublisher

def kHealthBeacon : List Char := "health.beacon".toList

/-- The labels of the format of the payload. -/
def labels : List (List Char) :=
  ["mode=".toList, " fault=".toList, " watchdog_lag_ns=".toList, " topic_trunc=".toList,
    " payload_trunc=".toList]

/-- The arguments of the format. -/
def arguments (h : Health) : List UInt64 :=
  [h.mode.toRaw, if h.faultLatched then 1 else 0, h.watchdogLagNs, h.topicTruncations,
    h.payloadTruncations]

/-- The output of `snprintf`, before it is cut. -/
def formatted (h : Health) : List Char := printLabeled (labels.zip (arguments h))

def beacon (now : ℤ) (h : Health) : DiagnosticEvent :=
  let payload := (Buffer.zeroed 160).snprintf (formatted h)
  let event : DiagnosticEvent := {}
  let event := event.setTopic kHealthBeacon
  let event := event.setPayload payload.view
  { event with timestampNs := UInt64.ofInt now }

variable (p : HealthBeaconPublisher)

def setTransport (attached : Bool) : HealthBeaconPublisher := { p with hasTransport := attached }

def setPeriod (period : ℤ) : HealthBeaconPublisher :=
  { p with period := if period ≤ 0 then 0 else period }

/-- The event is the one that is handed to the transport. -/
def publishIfDue (now : ℤ) (h : Health) : HealthBeaconPublisher × Option DiagnosticEvent :=
  if !p.hasTransport || p.period ≤ 0 then
    (p, none)
  else if p.hasPublished && now - p.lastPublish < p.period then
    (p, none)
  else
    ({ p with lastPublish := now, hasPublished := true }, some (beacon now h))

inductive Event
  | setTransport (attached : Bool)
  | setPeriod (period : ℤ)
  | publishIfDue (now : ℤ) (health : Health)
  deriving DecidableEq, Repr

def component : Component HealthBeaconPublisher Event (Option DiagnosticEvent) where
  next p
    | .setTransport attached => p.setTransport attached
    | .setPeriod period => p.setPeriod period
    | .publishIfDue now health => (p.publishIfDue now health).1
  output p
    | .publishIfDue now health => (p.publishIfDue now health).2
    | _ => none

/-! ## The payload -/

/-- The reader of a payload. -/
def readHealth (payload : List Char) : Option Health :=
  match readLabeled labels payload with
  | some [mode, fault, watchdogLagNs, topicTruncations, payloadTruncations] =>
      [Mode.init, .idle, .moving, .degraded, .avoidingObstacle, .localizationLost, .docking,
        .safeStop][mode.toNat]?.map fun mode =>
          ⟨mode, fault = 1, watchdogLagNs, topicTruncations, payloadTruncations⟩
  | _ => none

theorem map_fst_fields (h : Health) : (labels.zip (arguments h)).map Prod.fst = labels := rfl

/-- Five labels and five numbers of at most twenty digits. -/
theorem length_formatted_lt (h : Health) : (formatted h).length < 160 := by
  have hle := length_printLabeled_le (labels.zip (arguments h))
  have hlabels : ((labels.zip (arguments h)).map fun field => field.1.length).sum = 57 := rfl
  rw [hlabels] at hle
  exact hle.trans_lt (by decide : 57 + 20 * 5 < 160)

theorem nul_notMem_formatted (h : Health) : nul ∉ formatted h := by
  intro hnul
  rcases mem_printLabeled hnul with hdigit | ⟨field, hfield, hlabel⟩
  · exact absurd hdigit (by decide)
  · have hmem : field.1 ∈ labels := by
      rw [← map_fst_fields h]
      exact List.mem_map_of_mem hfield
    revert hlabel
    generalize field.1 = label at hmem
    revert label
    decide

/-- The buffer and the event have room for the whole payload. -/
theorem payloadView_beacon (now : ℤ) (h : Health) : (beacon now h).payloadView = formatted h := by
  have hview : ((Buffer.zeroed 160).snprintf (formatted h)).view = formatted h := by
    have htake : (formatted h).take (160 - 1) = formatted h :=
      List.take_of_length_le (Nat.le_pred_of_lt (length_formatted_lt h))
    rw [Buffer.view_snprintf _ (by decide) (by rw [htake]; exact nul_notMem_formatted h), htake]
  unfold beacon
  dsimp only
  rw [hview]
  exact DiagnosticEvent.setPayload_payloadView_of_lt (DiagnosticEvent.setTopic {} kHealthBeacon)
    (nul_notMem_formatted h) ((length_formatted_lt h).trans (by decide))

theorem payloadTruncated_beacon (now : ℤ) (h : Health) :
    (beacon now h).payloadTruncated = false := by
  have hlt : ((Buffer.zeroed 160).snprintf (formatted h)).view.length <
      kDiagnosticPayloadCapacity :=
    (Buffer.length_view_snprintf_lt _ (by decide) _).trans (by decide)
  exact DiagnosticEvent.setPayload_payloadTruncated_of_lt
    (DiagnosticEvent.setTopic {} kHealthBeacon) hlt

theorem topicView_beacon (now : ℤ) (h : Health) : (beacon now h).topicView = kHealthBeacon :=
  (DiagnosticEvent.fill_view (by decide) (by decide)).trans rfl

theorem isSeparator_of_mem : ∀ label ∈ labels.tail, IsSeparator label := by
  decide

theorem readHealth_formatted (h : Health) : readHealth (formatted h) = some h := by
  have hread : readLabeled labels (formatted h) = some (arguments h) := by
    refine readLabeled_printLabeled (labels.zip (arguments h)) fun field hfield => ?_
    exact isSeparator_of_mem field.1 (List.mem_map_of_mem hfield)
  unfold readHealth
  rw [hread]
  obtain ⟨mode, fault, _, _, _⟩ := h
  cases mode <;> cases fault <;> rfl

theorem output_eq_some {p : HealthBeaconPublisher} {e : Event} {event : DiagnosticEvent}
    (h : component.output p e = some event) :
    ∃ now health, e = .publishIfDue now health ∧ event = beacon now health := by
  cases e with
  | publishIfDue now health =>
      change (p.publishIfDue now health).2 = some event at h
      unfold publishIfDue at h
      split_ifs at h
      cases h
      exact ⟨now, health, rfl, rfl⟩
  | _ => cases h

/-- In every run: what is published is marked as whole, on its topic, and its payload gives back
the report of a call of the run. -/
theorem readHealth_of_output (p : HealthBeaconPublisher) (es : List Event) :
    ∀ event, some event ∈ component.outputs p es →
      event.topicView = kHealthBeacon ∧ event.payloadTruncated = false ∧
        ∃ now health, .publishIfDue now health ∈ es ∧
          readHealth event.payloadView = some health ∧
          event.timestampNs = UInt64.ofInt now := by
  have hmem : component.Along (fun _ e => e ∈ es) p es :=
    Component.Preserved.along_of_mem (I := fun _ => True) (fun _ _ _ => trivial) trivial
      fun _ _ he _ => he
  refine hmem.outputs (I := fun _ => True) (fun _ _ _ _ => trivial) ?_ trivial
  intro p e he _ event hout
  obtain ⟨now, health, rfl, rfl⟩ := output_eq_some hout
  refine ⟨topicView_beacon now health, payloadTruncated_beacon now health, now, health, he, ?_, rfl⟩
  rw [payloadView_beacon, readHealth_formatted]

theorem readHealth_of_output_test :
    let health : Health := ⟨.safeStop, true, 90, 3, 4⟩
    let es : List Event := [.publishIfDue 5 health]
    ∃ now health', .publishIfDue now health' ∈ es ∧
      readHealth (beacon 5 health).payloadView = some health' ∧
      (beacon 5 health).timestampNs = UInt64.ofInt now :=
  (readHealth_of_output { hasTransport := true, period := 100000000 } _ (beacon 5 _)
    (List.mem_singleton.2 rfl)).2.2

/-! ## The period -/

/-- Calls at the given time points. -/
def calls (reports : List (ℤ × Health)) : List Event :=
  reports.map fun report => .publishIfDue report.1 report.2

/-- The time stamps of the beacons of a run. -/
def stamps (p : HealthBeaconPublisher) (es : List Event) : List UInt64 :=
  ((component.outputs p es).filterMap id).map DiagnosticEvent.timestampNs

theorem stamps_cons (p : HealthBeaconPublisher) (now : ℤ) (health : Health) (es : List Event) :
    stamps p (.publishIfDue now health :: es) =
      ((p.publishIfDue now health).2.map DiagnosticEvent.timestampNs).toList ++
        stamps (p.publishIfDue now health).1 es := by
  unfold stamps
  change (((p.publishIfDue now health).2 ::
    component.outputs (p.publishIfDue now health).1 es).filterMap id).map _ = _
  cases (p.publishIfDue now health).2 <;> rfl

section Due

variable {p : HealthBeaconPublisher} (hattached : p.hasTransport = true) (hperiod : 0 < p.period)
  {now : ℤ} (health : Health)

include hattached hperiod

theorem publishIfDue_early (hpublished : p.hasPublished = true)
    (hlt : now - p.lastPublish < p.period) : p.publishIfDue now health = (p, none) := by
  unfold publishIfDue
  rw [if_neg (by simp [hattached, hperiod]), if_pos (by simp [hpublished, hlt])]

theorem publishIfDue_due (hdue : p.hasPublished = true → p.period ≤ now - p.lastPublish) :
    p.publishIfDue now health =
      ({ p with lastPublish := now, hasPublished := true }, some (beacon now health)) := by
  unfold publishIfDue
  rw [if_neg (by simp [hattached, hperiod]), if_neg]
  intro hearly
  obtain ⟨hpublished, hlt⟩ := Bool.and_eq_true_iff.1 hearly
  exact absurd (of_decide_eq_true hlt) (not_lt.2 (hdue hpublished))

end Due

/-- An attached publisher is a throttle of its calls. -/
theorem stamps_calls {p : HealthBeaconPublisher} (hattached : p.hasTransport = true)
    (hperiod : 0 < p.period) (hpublished : p.hasPublished = true)
    (reports : List (ℤ × Health)) :
    stamps p (calls reports) =
      (Throttle.admittedAfter p.period p.lastPublish (reports.map Prod.fst)).map
        UInt64.ofInt := by
  induction reports generalizing p with
  | nil => rfl
  | cons report reports ih =>
      obtain ⟨now, health⟩ := report
      change stamps p (.publishIfDue now health :: calls reports) = _
      rw [stamps_cons, List.map_cons]
      by_cases hlt : now - p.lastPublish < p.period
      · rw [publishIfDue_early hattached hperiod health hpublished hlt,
          Throttle.admittedAfter_of_lt hlt]
        exact ih hattached hperiod hpublished
      · rw [publishIfDue_due hattached hperiod health fun _ => not_lt.1 hlt,
          Throttle.admittedAfter_of_le (not_lt.1 hlt), List.map_cons]
        exact congrArg _ (ih (p := { p with lastPublish := now, hasPublished := true }) hattached
          hperiod rfl)

/-- Take the calls of a publisher that has a transport and a period, at time points that never
decrease and are at most `gap` apart. The beacons are those of the first call and of every later
one that is a period after the last beacon: they bear the time points of these calls, these are at
least one period apart, and their number follows the time since the first call from both sides. -/
theorem beacons_follow_period (p : HealthBeaconPublisher) (hattached : p.hasTransport = true)
    (hperiod : 0 < p.period) (hfresh : p.hasPublished = false) (first : ℤ × Health)
    (reports : List (ℤ × Health)) {gap : ℤ}
    (hdense : Throttle.Dense gap ((first :: reports).map Prod.fst)) :
    let times := Throttle.admitted p.period ((first :: reports).map Prod.fst)
    stamps p (calls (first :: reports)) = times.map UInt64.ofInt ∧
      times.Sublist ((first :: reports).map Prod.fst) ∧
      (times.IsChain fun s t => p.period ≤ t - s) ∧
      (times.length - 1) * p.period ≤ (reports.map Prod.fst).getLastD first.1 - first.1 ∧
      (reports.map Prod.fst).getLastD first.1 - first.1 <
        (times.length - 1) * (p.period + gap) + p.period := by
  intro times
  refine ⟨?_, Throttle.admitted_sublist _ _, Throttle.isChain_admitted _ _,
    Throttle.length_admitted_bounds hperiod hdense⟩
  obtain ⟨now, health⟩ := first
  change stamps p (.publishIfDue now health :: calls reports) = _
  rw [stamps_cons, publishIfDue_due hattached hperiod health (by simp [hfresh])]
  exact congrArg _ (stamps_calls (p := { p with lastPublish := now, hasPublished := true })
    hattached hperiod rfl reports)

/-- Three calls within 120 milliseconds, with a period of 100 milliseconds. The second one does
not publish. -/
theorem beacons_follow_period_test :
    let p : HealthBeaconPublisher := { hasTransport := true, period := 100000000 }
    let first : ℤ × Health := (0, ⟨.moving, false, 50, 1, 2⟩)
    let reports : List (ℤ × Health) :=
      [(50000000, ⟨.moving, false, 30, 1, 2⟩), (120000000, ⟨.safeStop, true, 90, 3, 4⟩)]
    let times : List ℤ := [0, 120000000]
    stamps p (calls (first :: reports)) = times.map UInt64.ofInt ∧
      times.Sublist ((first :: reports).map Prod.fst) ∧
      (times.IsChain fun s t => p.period ≤ t - s) ∧
      (times.length - 1 : ℤ) * p.period ≤ (reports.map Prod.fst).getLastD first.1 - first.1 ∧
      (reports.map Prod.fst).getLastD first.1 - first.1 <
        (times.length - 1 : ℤ) * (p.period + 70000000) + p.period :=
  beacons_follow_period _ rfl (by decide) rfl _ _ (by
    unfold Throttle.Dense
    decide)

end HealthBeaconPublisher

end SafetyCore
