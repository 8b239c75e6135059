import SafetyCore.Diag.DiagnosticEvent
import SafetyCore.Transition.Component

/-!
# Setting an event again and again

A setter fills its buffer with NUL before it copies, so nothing of an earlier value is left,
however long that was. After any calls an event shows the last topic and the last payload,
each cut to its capacity, and the flags say which of the two were cut.
-/

namespace SafetyCore

open Text Transition

namespace DiagnosticEvent

/-- A call of one of the setters. -/
inductive SetterCall
  | setTopic (value : List Char)
  | setPayload (value : List Char)

namespace SetterCall

def value : SetterCall → List Char
  | setTopic value => value
  | setPayload value => value

def topic? : SetterCall → Option (List Char)
  | setTopic value => some value
  | setPayload _ => none

def payload? : SetterCall → Option (List Char)
  | setTopic _ => none
  | setPayload value => some value

theorem value_of_topic? {call : SetterCall} {value : List Char} (h : call.topic? = some value) :
    call.value = value := by
  cases call with
  | setTopic topic => exact Option.some.inj h
  | setPayload payload => cases h

theorem value_of_payload? {call : SetterCall} {value : List Char}
    (h : call.payload? = some value) : call.value = value := by
  cases call with
  | setTopic topic => cases h
  | setPayload payload => exact Option.some.inj h

end SetterCall

/-- An event that reads calls of its setters. -/
def setters : Component DiagnosticEvent SetterCall Unit where
  next
    | e, .setTopic value => e.setTopic value
    | e, .setPayload value => e.setPayload value
  output _ _ := ()

/-- The topic that the calls set last, empty before the first of them. -/
def lastTopic (calls : List SetterCall) : List Char :=
  (lastValue SetterCall.topic? calls).getD []

/-- The payload that the calls set last, empty before the first of them. -/
def lastPayload (calls : List SetterCall) : List Char :=
  (lastValue SetterCall.payload? calls).getD []

/-- A part that one of the setters writes as a function of its value, and that is at first as
if it had been set to the empty text. -/
theorem run_setters_part {β : Type*} {part : DiagnosticEvent → β}
    {value? : SetterCall → Option (List Char)} (write : List Char → β)
    (h : ∀ e call, part (setters.next e call) = ((value? call).map write).getD (part e))
    (hinitial : part {} = write []) (calls : List SetterCall) :
    part (setters.run {} calls) = write ((lastValue value? calls).getD []) := by
  rw [Component.run_eq_lastValue part _ h, lastValue_map]
  cases lastValue value? calls with
  | none => exact hinitial
  | some value => rfl

theorem run_setters_topic (calls : List SetterCall) :
    (setters.run {} calls).topic = fill _ (lastTopic calls) := by
  refine run_setters_part _ ?_ rfl calls
  rintro e (value | value) <;> rfl

theorem run_setters_topicTruncated (calls : List SetterCall) :
    (setters.run {} calls).topicTruncated =
      decide (kDiagnosticTopicCapacity ≤ (lastTopic calls).length) := by
  refine run_setters_part (fun value => decide (kDiagnosticTopicCapacity ≤ value.length)) ?_
    rfl calls
  rintro e (value | value) <;> rfl

theorem run_setters_payload (calls : List SetterCall) :
    (setters.run {} calls).payload = fill _ (lastPayload calls) := by
  refine run_setters_part _ ?_ rfl calls
  rintro e (value | value) <;> rfl

theorem run_setters_payloadTruncated (calls : List SetterCall) :
    (setters.run {} calls).payloadTruncated =
      decide (kDiagnosticPayloadCapacity ≤ (lastPayload calls).length) := by
  refine run_setters_part (fun value => decide (kDiagnosticPayloadCapacity ≤ value.length)) ?_
    rfl calls
  rintro e (value | value) <;> rfl

theorem nul_notMem_lastValue {value? : SetterCall → Option (List Char)}
    (hvalue : ∀ call value, value? call = some value → call.value = value)
    {calls : List SetterCall} (hnul : ∀ call ∈ calls, nul ∉ call.value) :
    nul ∉ (lastValue value? calls).getD [] := by
  cases hlast : lastValue value? calls with
  | none => exact List.not_mem_nil
  | some value =>
      obtain ⟨call, hmem, hcall⟩ := exists_mem_of_lastValue hlast
      rw [Option.getD_some, ← hvalue call value hcall]
      exact hnul call hmem

/-- After any calls with texts without NUL the event shows the last topic and the last
payload as far as they fit, its flags say which of them do not, both buffers end in NUL, and
a setter leaves what belongs to the other one. -/
theorem run_setters {calls : List SetterCall} (hnul : ∀ call ∈ calls, nul ∉ call.value) :
    (setters.run {} calls).topicView = (lastTopic calls).take 63 ∧
    ((setters.run {} calls).topicTruncated = true ↔ 64 ≤ (lastTopic calls).length) ∧
    (setters.run {} calls).payloadView = (lastPayload calls).take 191 ∧
    ((setters.run {} calls).payloadTruncated = true ↔ 192 ≤ (lastPayload calls).length) ∧
    (setters.run {} calls).topic.chars.getLast? = some nul ∧
    (setters.run {} calls).payload.chars.getLast? = some nul ∧
    ∀ value,
      ((setters.run {} calls).setTopic value).payload = (setters.run {} calls).payload ∧
      ((setters.run {} calls).setTopic value).payloadTruncated =
        (setters.run {} calls).payloadTruncated ∧
      ((setters.run {} calls).setPayload value).topic = (setters.run {} calls).topic ∧
      ((setters.run {} calls).setPayload value).topicTruncated =
        (setters.run {} calls).topicTruncated := by
  have htopic : nul ∉ lastTopic calls :=
    nul_notMem_lastValue (fun _ _ => SetterCall.value_of_topic?) hnul
  have hpayload : nul ∉ lastPayload calls :=
    nul_notMem_lastValue (fun _ _ => SetterCall.value_of_payload?) hnul
  refine ⟨?_, ?_, ?_, ?_, ?_, ?_, fun value => ⟨rfl, rfl, rfl, rfl⟩⟩
  · rw [topicView, run_setters_topic, fill_view (by decide) htopic]
    rfl
  · rw [run_setters_topicTruncated, decide_eq_true_iff]
    rfl
  · rw [payloadView, run_setters_payload, fill_view (by decide) hpayload]
    rfl
  · rw [run_setters_payloadTruncated, decide_eq_true_iff]
    rfl
  · rw [run_setters_topic]
    exact fill_getLast? (by decide) _
  · rw [run_setters_payload]
    exact fill_getLast? (by decide) _

/-- A short topic after one that was cut, which leaves nothing behind. -/
theorem run_setters_shorter :
    let event := setters.run {} [.setTopic (List.replicate 64 'T'), .setTopic ['o', 'k']]
    event.topicView = ['o', 'k'] ∧ ¬ event.topicTruncated = true ∧
      event.payloadView = [] ∧ ¬ event.payloadTruncated = true ∧
      event.topic.chars.getLast? = some nul ∧ event.payload.chars.getLast? = some nul ∧
      ∀ value,
        (event.setTopic value).payload = event.payload ∧
        (event.setTopic value).payloadTruncated = event.payloadTruncated ∧
        (event.setPayload value).topic = event.topic ∧
        (event.setPayload value).topicTruncated = event.topicTruncated := by
  have hnul : ∀ call ∈ [SetterCall.setTopic (List.replicate 64 'T'), .setTopic ['o', 'k']],
      nul ∉ call.value := by
    decide
  obtain ⟨htopic, hcut, hpayload, hcut', hrest⟩ := run_setters hnul
  have hshort : ¬ 64 ≤ (lastTopic
      [.setTopic (List.replicate 64 'T'), .setTopic ['o', 'k']]).length := by decide
  have hshort' : ¬ 192 ≤ (lastPayload
      [.setTopic (List.replicate 64 'T'), .setTopic ['o', 'k']]).length := by decide
  exact ⟨htopic, mt hcut.1 hshort, hpayload, mt hcut'.1 hshort', hrest⟩

end DiagnosticEvent

end SafetyCore
