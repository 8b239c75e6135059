import Mathlib.Tactic.Common

/-!
# Results of library calls

Every fallible operation of the library returns a `Result`: a status code and a
message, the message empty on success.
-/

namespace SafetyCore

inductive StatusCode
  | ok
  | invalidState
  | deadlineMiss
  | fault
  deriving DecidableEq, Repr

structure Result where
  code : StatusCode := .ok
  message : String := ""
  deriving DecidableEq, Repr

namespace Result

/-- `ok()` of the source. -/
def isOk (r : Result) : Bool := r.code = .ok

def ok : Result := {}

def fault (msg : String) : Result := ⟨.fault, msg⟩

def invalidState (msg : String) : Result := ⟨.invalidState, msg⟩

def deadlineMiss (msg : String) : Result := ⟨.deadlineMiss, msg⟩

end Result

end SafetyCore
