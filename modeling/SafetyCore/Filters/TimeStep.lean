import SafetyCore.Filters.BoundedEkf

/-!
# The time step of the filters

The filters advance their model by the difference of two timestamps, or by the control
period where the timestamps give none: before the first one, and when a timestamp does not
lie after its predecessor.
-/

namespace SafetyCore

section Definitions

variable {α : Type*} [Mul α] [Div α] [OfScientific α] [IntCast α]

/-- The body of the `dt_seconds` of the filters. -/
def controlPeriodSeconds (config : Option (SystemConfig α)) : α :=
  match config with
  | none => 0.1
  | some cfg =>
      if 0 < cfg.timing.controlPeriod then
        BoundedEkfFilter.seconds cfg.timing.controlPeriod
      else
        0.1

/-- The time step of their timestamped updates, with `nominal` from `dt_seconds`. -/
def timestampedSeconds (nominal : α) (lastTimestampNs timestampNs : UInt64) : α :=
  if lastTimestampNs > 0 && timestampNs > lastTimestampNs then
    (((timestampNs - lastTimestampNs).toNat : ℤ) : α) * 1e-9
  else
    nominal

omit [Mul α] in
theorem BoundedEkfFilter.dtSeconds_eq (f : BoundedEkfFilter α) :
    f.dtSeconds = controlPeriodSeconds f.config := rfl

theorem BoundedEkfFilter.timestampedDt_eq (f : BoundedEkfFilter α) (timestampNs : UInt64) :
    f.timestampedDt timestampNs =
      timestampedSeconds f.dtSeconds f.lastTimestampNs timestampNs := rfl

end Definitions

end SafetyCore
