import SafetyCore.Text.Buffer

/-!
# Diagnostic events

An event has room for a topic and a payload. The setters cut what does not fit and raise
a flag, so that what an event shows is the whole text or is marked as cut.

The characters of a text are its bytes.
-/

namespace SafetyCore

open Text

def kDiagnosticTopicCapacity : ℕ := 64

def kDiagnosticPayloadCapacity : ℕ := 192

structure DiagnosticEvent where
  topic : Buffer kDiagnosticTopicCapacity := .zeroed _
  payload : Buffer kDiagnosticPayloadCapacity := .zeroed _
  timestampNs : UInt64 := 0
  topicTruncated : Bool := false
  payloadTruncated : Bool := false
  deriving DecidableEq

namespace DiagnosticEvent

/-- The loop that both setters share: fill the array with NUL and copy at most all but one
of its characters. -/
def fill (capacity : ℕ) (value : List Char) : Buffer capacity :=
  let copyLen := if value.length < capacity - 1 then value.length else capacity - 1
  (Buffer.zeroed capacity).store (value.take copyLen)

variable (e : DiagnosticEvent) (value : List Char)

def setTopic : DiagnosticEvent :=
  { e with
    topic := fill _ value
    topicTruncated := kDiagnosticTopicCapacity ≤ value.length }

def setPayload : DiagnosticEvent :=
  { e with
    payload := fill _ value
    payloadTruncated := kDiagnosticPayloadCapacity ≤ value.length }

def topicView : List Char := e.topic.view

def payloadView : List Char := e.payload.view

/-- What is copied is the whole text, unless the text is longer. -/
theorem fill_eq_store_take (capacity : ℕ) (value : List Char) :
    fill capacity value = (Buffer.zeroed capacity).store (value.take (capacity - 1)) := by
  unfold fill
  dsimp only
  split
  · rw [List.take_length, List.take_of_length_le (by omega)]
  · rfl

theorem length_take_lt {capacity : ℕ} (hcapacity : 0 < capacity) (value : List Char) :
    (value.take (capacity - 1)).length < capacity := by
  rw [List.length_take]
  omega

/-- What is copied fits. -/
theorem fill_view {capacity : ℕ} (hcapacity : 0 < capacity) {value : List Char}
    (hnul : nul ∉ value) : (fill capacity value).view = value.take (capacity - 1) := by
  rw [fill_eq_store_take]
  exact Buffer.view_store_zeroed (fun h => hnul (List.mem_of_mem_take h))
    (length_take_lt hcapacity value)

/-- The last character is never written. -/
theorem fill_getLast? {capacity : ℕ} (hcapacity : 0 < capacity) (value : List Char) :
    (fill capacity value).chars.getLast? = some nul := by
  rw [fill_eq_store_take]
  exact Buffer.getLast?_store_zeroed (length_take_lt hcapacity value)

theorem setPayload_payloadTruncated_of_lt {value : List Char}
    (hlength : value.length < kDiagnosticPayloadCapacity) :
    (e.setPayload value).payloadTruncated = false := by
  unfold setPayload
  exact decide_eq_false (not_le.2 hlength)

theorem setPayload_payloadView_of_lt {value : List Char} (hnul : nul ∉ value)
    (hlength : value.length < kDiagnosticPayloadCapacity) :
    (e.setPayload value).payloadView = value := by
  unfold setPayload payloadView
  rw [fill_view (by decide) hnul, List.take_of_length_le]
  exact Nat.le_pred_of_lt hlength

end DiagnosticEvent

end SafetyCore
