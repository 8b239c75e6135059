import Mathlib.Tactic.Common

/-!
# Safety zones

The zone of an `EnvelopeStatus` message is a byte that the nodes cast to
`SafetyZone` without a check, so `SafetyZone.ofRaw` keeps the bytes that are not
one of the four zones.
-/

namespace SafetyCore

inductive SafetyZone
  | clear
  | warning
  | protective
  | emergency
  | other (raw : UInt8)
  deriving DecidableEq, Repr

namespace SafetyZone

/-- `static_cast<SafetyZone>`. -/
def ofRaw (raw : UInt8) : SafetyZone :=
  if raw = 0 then .clear
  else if raw = 1 then .warning
  else if raw = 2 then .protective
  else if raw = 3 then .emergency
  else .other raw

/-- The underlying value; a more severe zone has a larger one. -/
def toRaw : SafetyZone → UInt8
  | .clear => 0
  | .warning => 1
  | .protective => 2
  | .emergency => 3
  | .other raw => raw

end SafetyZone

end SafetyCore
