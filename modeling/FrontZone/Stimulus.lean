import FrontZone.SensorFault
import FrontZone.Zone
/-!
# Stimuli and scenarios

A stimulus is something the outside world does to the zone. A scenario is a fixed script of stimuli,
each with the cycle after the start at which it happens.
-/

namespace FrontZone

/-- Something that happens to the zone from outside. -/
inductive Stimulus where
  | setSteering (deg : Int32)
  | setBrake (pct : Int32)
  | emergencyStop (active : Bool)
  | setVehicleState (state : VehicleState)
  | injectSensorFault (fault : SensorFault) (durationCycles : Option UInt32)
  | clearSensorFault
  /-- The driver repeats the last commands, so that they go stale. -/
  | freezeCommands (frozen : Bool)
  deriving Repr, DecidableEq

/-- The scripts that are built in. -/
inductive Scenario where
  /-- A gentle steering sweep with light braking. -/
  | nominal
  /-- The steering sensor drops out for 20 cycles. -/
  | sensorDropout
  /-- The steering sensor is 8 degrees off the servo. -/
  | plausibilityDrift
  /-- The driver's commands freeze for 30 cycles. -/
  | staleCommands
  /-- Three dropouts, each after the latch has opened again. -/
  | repeatedFaults
  /-- The emergency stop for 50 cycles while the driver steers back. -/
  | emergencyStop
  deriving Repr, DecidableEq

namespace Scenario

/-- The name under which a scenario is logged and sent. -/
def name : Scenario → String
  | nominal => "Nominal"
  | sensorDropout => "SensorDropout"
  | plausibilityDrift => "PlausibilityDrift"
  | staleCommands => "StaleCommands"
  | repeatedFaults => "RepeatedFaults"
  | emergencyStop => "EmergencyStop"

/-- The script of a scenario, in order. -/
def stimuli : Scenario → List (UInt64 × Stimulus)
  | nominal =>
    [(0, .setSteering 10), (0, .setBrake 5), (200, .setSteering (-10)), (400, .setSteering 0),
      (400, .setBrake 0)]
  | sensorDropout => [(10, .injectSensorFault .dropout (some 20))]
  | plausibilityDrift => [(10, .injectSensorFault (.offset 8) none), (60, .clearSensorFault)]
  | staleCommands => [(10, .freezeCommands true), (40, .freezeCommands false)]
  | repeatedFaults =>
    [10, 100, 200].map fun offset => (offset, .injectSensorFault .dropout (some 2))
  | emergencyStop =>
    [(0, .setSteering 15), (100, .emergencyStop true), (100, .setSteering 0),
      (150, .emergencyStop false)]

end Scenario

end FrontZone
