import FrontZone.Injector
import FrontZone.Json
import FrontZone.Schedule
/-!
# Commands and replies

What a client may ask of the simulation, and what it is answered.
-/

namespace FrontZone

/-- What a client asks for. -/
inductive Request where
  | ping
  | status
  /-- A steering target in degrees. -/
  | setSteering (deg : Int32)
  /-- A brake target in percent. -/
  | setBrake (pct : Int32)
  | emergencyStop (active : Bool)
  | setVehicleState (state : VehicleState)
  | injectSensorFault (fault : SensorFault) (durationCycles : Option UInt32)
  | clearSensorFault
  /-- Random faults on or off. -/
  | setFaultInjection (enabled : Bool)
  | freezeCommands (frozen : Bool)
  | runScenario (scenario : Scenario)
  | restart (actuator : Actuator)
  | getDtcs
  | clearDtcs
  deriving Repr, DecidableEq

/-- A request with the number by which its reply is known. -/
structure Command where
  id : UInt32
  request : Request
  deriving Repr, DecidableEq

/-- How a command fared. -/
inductive ReplyStatus where
  | success
  | error
  | invalidCommand
  /-- Understood, but not possible at present. -/
  | rejected
  deriving Repr, DecidableEq

/-- The name under which a status is sent. -/
def ReplyStatus.name : ReplyStatus → String
  | success => "Success"
  | error => "Error"
  | invalidCommand => "InvalidCommand"
  | rejected => "Rejected"

/-- The answer to a command. -/
structure Reply where
  id : UInt32
  /-- The cycle at which the command was carried out. -/
  cycle : UInt64
  status : ReplyStatus
  message : Option String := none
  data : Option Json := none
  deriving Repr

/-- What the simulation tells about itself on request. -/
structure Status where
  cycle : UInt64
  /-- The report of the last cycle, if there was one. -/
  lastReport : Option ZoneReport
  commandsFrozen : Bool
  faultInjection : InjectionStats
  scheduler : ScheduleStats
  cutoffFramesSent : UInt32
  deriving Repr, DecidableEq

end FrontZone
