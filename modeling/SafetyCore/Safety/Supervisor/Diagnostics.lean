import Mathlib.Tactic.NormNum
import SafetyCore.Diag.DiagnosticEvent
import SafetyCore.Safety.Supervisor

/-!
# The diagnostic events of the supervisor

`publish_monitor_event` formats the text of a monitor event into a buffer of 128
characters and hands what is there to `set_payload`, which has room for 192 and so never
has anything to cut. A text of 128 or more characters is cut by `snprintf`, and the event
does not say so.

The precision of `%.*s` is the size of the detail as a signed 32-bit number. A negative one
counts as none, and the conversion goes on to the next NUL; `beyond` is what lies in memory
between the detail and there.
-/

namespace SafetyCore

open Text

namespace SafetySupervisor

def monitorName : MonitorType → String
  | .clockRegression => "clock_regression"
  | .localizationStale => "localization_stale"
  | .trajectoryEnvelope => "trajectory_envelope"
  | .diagnosticDrop => "diagnostic_drop"
  | .unknown _ => "unknown"

/-- `static_cast<unsigned>` of a severity. -/
def severityNumber : MonitorSeverity → ℕ
  | .none => 0
  | .warning => 1
  | .degraded => 2
  | .critical => 3
  | .unknown raw => raw.toNat

/-- The conversion `%u`. -/
def decimal (n : ℕ) : List Char := Nat.toDigits 10 n

/-- The output of the format up to the detail. -/
def formatHeader (event : MonitorEvent) : List Char :=
  "monitor=".toList ++ (monitorName event.type).toList ++ " severity=".toList ++
    decimal (severityNumber event.severity) ++ " code=".toList ++
    decimal event.code.toNat ++ " detail=".toList

/-- The whole text of an event. -/
def fullText (event : MonitorEvent) : List Char := formatHeader event ++ event.detail.toList

/-- `static_cast<int>` of a size. -/
def sizeToInt (size : ℕ) : ℤ := (BitVec.ofNat 32 size).toInt

/-- The conversion `%.*s`. -/
def formatPrecision (precision : ℤ) (text beyond : List Char) : List Char :=
  if precision < 0 then text ++ beyond else text.take precision.toNat

/-- All that the format puts out. -/
def formatted (event : MonitorEvent) (beyond : List Char) : List Char :=
  formatHeader event ++
    formatPrecision (sizeToInt event.detail.length) event.detail.toList beyond

def kMonitorPayloadSize : ℕ := 128

/-- The text in the local buffer after `snprintf`. -/
def monitorPayload (event : MonitorEvent) (beyond : List Char) : List Char :=
  ((Buffer.zeroed kMonitorPayloadSize).snprintf (formatted event beyond)).view

def publishMonitorEvent (topic : String) (event : MonitorEvent) (beyond : List Char)
    (stampNs : UInt64) : DiagnosticEvent :=
  { (({} : DiagnosticEvent).setTopic topic.toList).setPayload (monitorPayload event beyond)
    with timestampNs := stampNs }

/-- What `process_monitor_event` publishes when a transport is attached. -/
def publishedEvents (event : MonitorEvent) (beyond : List Char) (stampNs : UInt64) :
    List DiagnosticEvent :=
  match event.severity with
  | .warning => [publishMonitorEvent "safety.monitor_warning" event beyond stampNs]
  | .degraded => [publishMonitorEvent "safety.degraded_request" event beyond stampNs]
  | .critical => [publishMonitorEvent "safety.safestop_forced" event beyond stampNs]
  | .none | .unknown _ => []

/-- The event shows the whole text of `event`, or says that it does not. -/
def ShowsOrFlags (event : MonitorEvent) (d : DiagnosticEvent) : Prop :=
  d.payloadView = fullText event ∨ d.payloadTruncated = true

/-! ## The text -/

theorem nul_notMem_decimal (n : ℕ) : nul ∉ decimal n := by
  intro h
  have hdigit := Nat.isDigit_of_mem_toDigits (by decide) (by decide) h
  exact absurd hdigit (by decide)

theorem nul_notMem_monitorName (type : MonitorType) : nul ∉ (monitorName type).toList := by
  cases type with
  | unknown raw =>
      change nul ∉ "unknown".toList
      decide +kernel
  | _ => decide +kernel

theorem nul_notMem_formatHeader (event : MonitorEvent) : nul ∉ formatHeader event := by
  have hmonitor : nul ∉ "monitor=".toList := by decide +kernel
  have hseverity : nul ∉ " severity=".toList := by decide +kernel
  have hcode : nul ∉ " code=".toList := by decide +kernel
  have hdetail : nul ∉ " detail=".toList := by decide +kernel
  intro h
  unfold formatHeader at h
  simp only [List.mem_append] at h
  rcases h with (((((h | h) | h) | h) | h) | h) | h
  · exact hmonitor h
  · exact nul_notMem_monitorName event.type h
  · exact hseverity h
  · exact nul_notMem_decimal _ h
  · exact hcode h
  · exact nul_notMem_decimal _ h
  · exact hdetail h

theorem sizeToInt_of_lt {size : ℕ} (h : size < 2 ^ 31) : sizeToInt size = size := by
  rw [sizeToInt, BitVec.toInt_ofNat']
  exact Int.bmod_eq_of_le (by omega) (by omega)

/-- A detail that is not longer than the buffer is put out whole. -/
theorem formatted_of_short {event : MonitorEvent}
    (h : (fullText event).length < kMonitorPayloadSize) (beyond : List Char) :
    formatted event beyond = fullText event := by
  have hdetail : event.detail.length < kMonitorPayloadSize := by
    rw [← String.length_toList]
    rw [fullText, List.length_append] at h
    omega
  have hprecision : sizeToInt event.detail.length = event.detail.length :=
    sizeToInt_of_lt (hdetail.trans (by decide))
  rw [formatted, formatPrecision, hprecision, if_neg (by omega), Int.toNat_natCast,
    ← String.length_toList, List.take_length, fullText]

/-! ## The published events -/

section Published

variable (topic : String) (event : MonitorEvent) (beyond : List Char) (stampNs : UInt64)

theorem length_monitorPayload_lt :
    (monitorPayload event beyond).length < kMonitorPayloadSize :=
  Buffer.length_view_snprintf_lt _ (by decide) _

/-- The second buffer is larger than the first and flags nothing. -/
theorem publishMonitorEvent_payloadTruncated :
    (publishMonitorEvent topic event beyond stampNs).payloadTruncated = false := by
  have hlength := (length_monitorPayload_lt event beyond).trans
    (by decide : kMonitorPayloadSize < kDiagnosticPayloadCapacity)
  unfold publishMonitorEvent
  generalize monitorPayload event beyond = text at hlength ⊢
  exact DiagnosticEvent.setPayload_payloadTruncated_of_lt
    (({} : DiagnosticEvent).setTopic topic.toList) hlength

theorem publishMonitorEvent_payloadView :
    (publishMonitorEvent topic event beyond stampNs).payloadView =
      monitorPayload event beyond := by
  have hlength := (length_monitorPayload_lt event beyond).trans
    (by decide : kMonitorPayloadSize < kDiagnosticPayloadCapacity)
  have hnul : nul ∉ monitorPayload event beyond := Buffer.nul_notMem_view _
  unfold publishMonitorEvent
  generalize monitorPayload event beyond = text at hlength hnul ⊢
  exact DiagnosticEvent.setPayload_payloadView_of_lt
    (({} : DiagnosticEvent).setTopic topic.toList) hnul hlength

variable {event}

/-- An event shows its whole text exactly if the text fits into the first buffer. -/
theorem showsOrFlags_iff (hdetail : nul ∉ event.detail.toList) :
    ShowsOrFlags event (publishMonitorEvent topic event beyond stampNs) ↔
      (fullText event).length < kMonitorPayloadSize := by
  unfold ShowsOrFlags
  rw [publishMonitorEvent_payloadTruncated, publishMonitorEvent_payloadView]
  constructor
  · rintro (hview | hfalse)
    · rw [← hview]
      exact length_monitorPayload_lt event beyond
    · cases hfalse
  · intro hlength
    have hnul : nul ∉ fullText event := by
      rw [fullText, List.mem_append, not_or]
      exact ⟨nul_notMem_formatHeader event, hdetail⟩
    have htake : (fullText event).take (kMonitorPayloadSize - 1) = fullText event :=
      List.take_of_length_le (Nat.le_pred_of_lt hlength)
    left
    rw [monitorPayload, formatted_of_short hlength, Buffer.view_snprintf _ (by decide), htake]
    rwa [htake]

/-- The severities of which events are published. -/
def IsPublished (severity : MonitorSeverity) : Prop :=
  severity = .warning ∨ severity = .degraded ∨ severity = .critical

/-- For every event with a detail without NUL: each diagnostic event published for it shows
the whole text or is flagged as truncated, exactly if the text has fewer than 128 characters
or nothing is published. -/
theorem publishedEvents_showOrFlag_iff (event : MonitorEvent) (beyond : List Char)
    (stampNs : UInt64) (hdetail : nul ∉ event.detail.toList) :
    (∀ d ∈ publishedEvents event beyond stampNs, ShowsOrFlags event d) ↔
      (IsPublished event.severity → (fullText event).length < kMonitorPayloadSize) := by
  have hiff := fun topic => showsOrFlags_iff topic beyond stampNs hdetail
  unfold publishedEvents IsPublished
  cases event.severity <;> simp [hiff]

end Published

/-- A clock regression with the detail of the supervisor itself. -/
theorem publishedEvents_showOrFlag_iff_clock :
    (∀ d ∈ publishedEvents
          { severity := .critical, code := 1001, detail := "clock moved backwards" } [] 0,
        ShowsOrFlags
          { severity := .critical, code := 1001, detail := "clock moved backwards" } d) ↔
      (IsPublished .critical →
        (fullText { severity := .critical, code := 1001,
                    detail := "clock moved backwards" }).length < kMonitorPayloadSize) :=
  publishedEvents_showOrFlag_iff
    { severity := .critical, code := 1001, detail := "clock moved backwards" } [] 0
    (by decide +kernel)

/-- A warning with a detail of 100 characters. -/
def longWarning : MonitorEvent := { severity := .warning, detail := "".pushn 'x' 100 }

/-- The detail is cut, and no flag says so. -/
theorem publishedEvents_clip_silently :
    ¬ ∀ (event : MonitorEvent) (beyond : List Char) (stampNs : UInt64),
      nul ∉ event.detail.toList →
      ∀ d ∈ publishedEvents event beyond stampNs, ShowsOrFlags event d := by
  intro h
  have hdetail : nul ∉ longWarning.detail.toList := by decide +kernel
  have hpublished : publishedEvents longWarning [] 0 =
      [publishMonitorEvent "safety.monitor_warning" longWarning [] 0] := rfl
  have hshows := h longWarning [] 0 hdetail
    (publishMonitorEvent "safety.monitor_warning" longWarning [] 0)
    (by rw [hpublished]; exact List.mem_singleton_self _)
  rw [showsOrFlags_iff _ _ _ hdetail] at hshows
  exact absurd hshows (by decide +kernel)

end SafetySupervisor

end SafetyCore
