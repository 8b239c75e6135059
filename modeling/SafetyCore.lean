import SafetyCore.Transition.Component
import SafetyCore.Transition.Interleaving
import SafetyCore.Transition.SequenceLock
import SafetyCore.Transition.BufferedLoop
import SafetyCore.Transition.Network
import SafetyCore.Collections.AssocList
import SafetyCore.Collections.Dwell
import SafetyCore.Collections.Throttle
import SafetyCore.Arithmetic.Comparison
import SafetyCore.Arithmetic.Rounding
import SafetyCore.Arithmetic.SquareRoot
import SafetyCore.Arithmetic.Trigonometry
import SafetyCore.Arithmetic.ClampedAffine
import SafetyCore.Arithmetic.Int64
import SafetyCore.Arithmetic.Double
import SafetyCore.Arithmetic.Double.Order
import SafetyCore.Arithmetic.Double.Monotone
import SafetyCore.Arithmetic.Double.Unbounded
import SafetyCore.Arithmetic.DiagonalScaling
import SafetyCore.Arithmetic.Exponential
import SafetyCore.Text.Conversion
import SafetyCore.Text.Conversion.Numeral
import SafetyCore.Text.Buffer
import SafetyCore.Text.Labeled
import SafetyCore.Result
import SafetyCore.Config.SystemConfig
import SafetyCore.Config.Validation
import SafetyCore.Config.Migration
import SafetyCore.Config.EnvLoader
import SafetyCore.Config.EnvLoader.MaxTasks
import SafetyCore.Config.EnvLoader.Durations
import SafetyCore.Diag.DiagnosticEvent
import SafetyCore.Diag.DiagnosticEvent.Setters
import SafetyCore.Diag.HealthBeacon
import SafetyCore.Control.SafetyPid
import SafetyCore.Control.SafetyPid.Staleness
import SafetyCore.Control.SafetyPid.Feedforward
import SafetyCore.Control.SafetyPid.BoundedOutput
import SafetyCore.Control.SafetyPid.Limits
import SafetyCore.Control.SafetyPid.AntiWindup
import SafetyCore.Control.SafetyPid.OutputRate
import SafetyCore.Control.SafetyPid.PureFeedforward
import SafetyCore.Control.SafetyPid.RejectedConfig
import SafetyCore.Control.SafetyPid.RejectedConfig.Probes
import SafetyCore.Platform.Sensors
import SafetyCore.StateMachine.Mode
import SafetyCore.StateMachine.Machine
import SafetyCore.StateMachine.Atomic
import SafetyCore.StateMachine.Concurrency
import SafetyCore.StateMachine.AuditTrail
import SafetyCore.Exec.TaskExecutor
import SafetyCore.Exec.TaskExecutor.Capacity
import SafetyCore.Exec.TaskExecutor.Releases
import SafetyCore.Exec.TaskExecutor.CatchUp
import SafetyCore.Exec.TaskExecutor.Watchdog
import SafetyCore.Exec.TaskExecutor.Drift
import SafetyCore.Filters.BoundedEkf
import SafetyCore.Filters.BoundedEkf.Bounds
import SafetyCore.Filters.BoundedEkf.Covariance
import SafetyCore.Filters.TimeStep
import SafetyCore.Filters.AlphaBeta
import SafetyCore.Filters.Complementary
import SafetyCore.Filters.Complementary.Bound
import SafetyCore.Filters.Complementary.Orbit
import SafetyCore.Filters.TimedFilter
import SafetyCore.Filters.TimedFilter.ModelTime
import SafetyCore.Filters.TimedFilter.Spacing
import SafetyCore.Motion.StopProfile
import SafetyCore.Motion.EmergencyStop
import SafetyCore.Motion.EmergencyStop.ClosedForm
import SafetyCore.Motion.StopProfile.Distance
import SafetyCore.Motion.StopProfile.Rounds
import SafetyCore.Motion.StopProfile.Dominance
import SafetyCore.Motion.StopProfile.RampDown
import SafetyCore.Motion.StopProfile.Doubles
import SafetyCore.Motion.StopProfile.Schedule
import SafetyCore.Safety.Envelope
import SafetyCore.Safety.Supervisor
import SafetyCore.Safety.Supervisor.Escalation
import SafetyCore.Safety.Supervisor.LocalizationAge
import SafetyCore.Safety.Supervisor.Diagnostics
import SafetyCore.Safety.StopDistance
import SafetyCore.Safety.StopDistance.Monotone
import SafetyCore.Safety.StopDistance.RecommendedSpeed
import SafetyCore.Safety.StopDistance.ExecutedStop
import SafetyCore.Motion.TrajectoryValidator
import SafetyCore.Motion.TrajectoryValidator.Pointwise
import SafetyCore.Motion.TrajectoryValidator.Generated
import SafetyCore.Motion.TrajectoryValidator.EnvelopeStop
import SafetyCore.System.ContextFactory
import SafetyCore.System.ContextFactory.Rebuild
import SafetyCore.System.ContextFactory.Soundness
import SafetyCore.System.SafetyCoreApp
import SafetyCore.System.SafetyCoreApp.ExitStatus
import SafetyCore.Ros.TimeUtils
import SafetyCore.Ros.SpeedLimit
import SafetyCore.Ros.SpeedLimit.SafeStop
import SafetyCore.Ros.SpeedLimit.Ramp
import SafetyCore.Ros.SensorRecovery
import SafetyCore.Ros.SensorRecovery.Timeouts
import SafetyCore.Ros.SensorRecovery.Withdrawal
import SafetyCore.Ros.SensorMonitor
import SafetyCore.Ros.SensorMonitor.Summary
import SafetyCore.Ros.SensorMonitor.Metrics
import SafetyCore.Ros.SupervisorNode
import SafetyCore.Ros.SupervisorNode.Checks
import SafetyCore.Ros.SupervisorNode.Tick
import SafetyCore.Ros.SupervisorNode.FaultLatch
import SafetyCore.Ros.SupervisorNode.PublishedState
import SafetyCore.Ros.SupervisorNode.Localization
import SafetyCore.Ros.SupervisorNode.DegradedLimit
import SafetyCore.Ros.SupervisorNode.DegradedSummary
import SafetyCore.Ros.SupervisorNode.ObstacleHold
import SafetyCore.Ros.SupervisorNode.LocalizationLost
import SafetyCore.Ros.SupervisorNode.FaultReason
import SafetyCore.Ros.SupervisorNode.SummaryFault
import SafetyCore.Ros.DriveBridge
import SafetyCore.Ros.DriveBridge.SafeStop
import SafetyCore.Ros.DriveBridge.PublishedTwist
import SafetyCore.Ros.DriveBridge.CommandGate
import SafetyCore.Ros.SafetyEnvelope
import SafetyCore.Ros.SafetyEnvelope.Zones
import SafetyCore.Ros.SafetyEnvelope.EmptyCorridor
import SafetyCore.Ros.SafetyEnvelope.Emergency
import SafetyCore.Ros.GpsCovarianceAdapter
import SafetyCore.Ros.IsSafeCondition
import SafetyCore.Ros.Qos
import SafetyCore.Ros.SafetyStack
import SafetyCore.Ros.SafetyStack.ClearedStop
import SafetyCore.Ros.SafetyStack.DegradedSpeed
import SafetyCore.Ros.SafetyStack.EndToEnd
import SafetyCore.Ros.SafetyStack.FaultCause
import SafetyCore.Ros.SafetyStack.FaultStop
import SafetyCore.Ros.SafetyStack.IsSafe
import SafetyCore.Ros.SafetyStack.SpeedLimit
import SafetyCore.Ros.SafetyStack.SpentSensors
import SafetyCore.Ros.SafetyStack.StopProfile
import SafetyCore.Ros.SafetyStack.StopReason
import SafetyCore.Ros.SlipDetector
import SafetyCore.Ros.SlipDetector.Estimate
import SafetyCore.Ros.Teleop
import SafetyCore.Ros.Teleop.StopKey
import SafetyCore.Bringup.AdaptiveEkf
import SafetyCore.Bringup.EnhancedLocalization
import SafetyCore.Bringup.Readings
import SafetyCore.Bringup.SensorFault
