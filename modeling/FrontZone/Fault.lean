/-!
# Faults and vehicle states

The kinds of fault a governor can report, and the operating states the vehicle imposes on it.
-/

namespace FrontZone

/-- What is wrong with an actuator. -/
inductive FaultCode where
  | noFault
  | outOfRange
  | plausibility
  /-- Never reported: the slew limiter bounds a fast command instead of refusing it. -/
  | rateExceeded
  | cmdTimeout
  | sensorFail
  deriving Repr, DecidableEq

namespace FaultCode

/-- The name under which a fault is logged and sent. -/
def name : FaultCode → String
  | noFault => "NoFault"
  | outOfRange => "OutOfRange"
  | plausibility => "Plausibility"
  | rateExceeded => "RateExceeded"
  | cmdTimeout => "CmdTimeout"
  | sensorFail => "SensorFail"

/-- The faults a latch can hold, in the order in which their recovery is reported. -/
def latchable : List FaultCode :=
  [outOfRange, plausibility, cmdTimeout, sensorFail]

end FaultCode

/-- The operating state of the whole vehicle. -/
inductive VehicleState where
  | init
  | run
  | degraded
  | limp
  | safeStop
  | shutdown
  deriving Repr, DecidableEq

namespace VehicleState

/-- The name under which a vehicle state is logged and sent. -/
def name : VehicleState → String
  | init => "Init"
  | run => "Run"
  | degraded => "Degraded"
  | limp => "Limp"
  | safeStop => "SafeStop"
  | shutdown => "Shutdown"

/-- Whether every actuator is to be held at its safe value in this state. -/
def demandsSafeOutput (s : VehicleState) : Bool :=
  s = safeStop || s = shutdown

end VehicleState

end FrontZone
