import FrontZone.Governor.Update
/-!
# The front zone

The zone runs a steering and a brake governor in the same cycle, on one snapshot of the emergency
stop and one set of services. Either governor may be without initialisation; it is then reported as
absent and counted as faulty, and the other one runs on.
-/

namespace FrontZone

/-- The actuators of the front zone. -/
inductive Actuator where
  | steering
  | brake
  deriving Repr, DecidableEq

/-- The name under which an actuator is logged and sent. -/
def Actuator.name : Actuator → String
  | steering => "Steering"
  | brake => "Brake"

/-! ## The fault mask -/

/-- The bit of an actuator in the fault mask. -/
def Actuator.faultBit : Actuator → UInt8
  | steering => 1
  | brake => 2

/-- The bits of the fault mask that belong to the actuators; the others belong to other monitors. -/
def actuatorFaultBits : UInt8 := 3

/-- The verdict on the zone as a whole. -/
inductive SafetyStatus where
  | ok
  /-- Only monitors other than the actuators' report a fault. -/
  | degraded
  | fault
  deriving Repr, DecidableEq

/-- The name under which a verdict is sent. -/
def SafetyStatus.name : SafetyStatus → String
  | ok => "Ok"
  | degraded => "Degraded"
  | fault => "Fault"

/-- The verdict that a fault mask amounts to. -/
def SafetyStatus.ofFaultMask (mask : UInt8) : SafetyStatus :=
  if mask &&& actuatorFaultBits ≠ 0 then .fault
  else if mask ≠ 0 then .degraded
  else .ok

/-- The bit that an actuator contributes to the mask: set unless it ran without a fault. -/
def faultBitOf (a : Actuator) (report : Option CycleReport) : UInt8 :=
  if report.any (·.fault = .noFault) then 0 else a.faultBit

/-! ## The zone -/

/-- Commands of one cycle in signal units. -/
structure ZoneCommands where
  steeringDeg : Int32 := 0
  brakePct : Int32 := 0
  deriving Repr, DecidableEq

/-- What can be seen of one cycle of the zone. -/
structure ZoneReport where
  cycle : UInt64
  /-- Absent if the governor did not run. -/
  steering : Option CycleReport
  brake : Option CycleReport
  faultMask : UInt8
  safety : SafetyStatus
  vehicleState : VehicleState
  emergencyStop : Bool
  deriving Repr, DecidableEq

/-- The front-zone controller. -/
structure Zone where
  steering : Governor
  brake : Governor
  emergencyStop : Bool := false
  vehicleState : VehicleState := .run
  /-- Fault bits raised by other monitors. -/
  externalFaults : UInt8 := 0
  /-- The steering governor did not run in the last cycle. -/
  steeringStopped : Bool := false
  /-- The brake governor did not run in the last cycle. -/
  brakeStopped : Bool := false
  cycle : UInt64 := 0
  deriving Repr, DecidableEq

namespace Zone

/-- A zone with both governors initialised. -/
def ofCalibration (z : ZoneCalibration) : Except CalibrationError Zone := do
  let steering ← Governor.init (some z.steering)
  let brake ← Governor.init (some z.brake)
  return { steering, brake }

/-- The governor of an actuator. -/
def governor (z : Zone) : Actuator → Governor
  | .steering => z.steering
  | .brake => z.brake

/-! ## Settings from outside -/

/-- Raises or releases the emergency stop, which takes effect with the next cycle. -/
def setEmergencyStop (z : Zone) (active : Bool) : Zone :=
  { z with emergencyStop := active }

/-- Changes the vehicle state. -/
def setVehicleState (z : Zone) (state : VehicleState) : Logged Zone :=
  if state = z.vehicleState then pure z
  else do
    Logged.entry .info ("vehicle state " ++ z.vehicleState.name ++ " -> " ++ state.name)
    pure { z with vehicleState := state }

/-- Raises or drops the fault bits in `bits` that do not belong to the actuators. -/
def setExternalFault (z : Zone) (bits : UInt8) (active : Bool) : Zone :=
  let bits := bits &&& ~~~actuatorFaultBits
  { z with
    externalFaults := if active then z.externalFaults ||| bits else z.externalFaults &&& ~~~bits }

/-- Starts one governor over. -/
def reinit (z : Zone) (a : Actuator) (calibration : Option Calibration) :
    Logged (Zone × Except CalibrationError Unit) := do
  Logged.entry .warning ("re-initialising " ++ a.name ++ " governor")
  match a with
  | .steering =>
    let (governor, result) := z.steering.reinit calibration
    pure ({ z with steering := governor }, result)
  | .brake =>
    let (governor, result) := z.brake.reinit calibration
    pure ({ z with brake := governor }, result)

/-! ## The cycle -/

/-- A zone with everything that one cycle may have changed, and the cycle's report. -/
structure Step where
  zone : Zone
  steeringRig : Rig
  brakeRig : Rig
  services : Services
  report : ZoneReport

/-- The inputs of one governor, the same for both but for the command. -/
def inputs (z : Zone) (command : Int32) : CycleInputs where
  command
  emergencyStop := z.emergencyStop
  vehicleState := z.vehicleState

/-- Whether a governor is stopped now; a change is logged. -/
def trackAvailability (a : Actuator) (wasStopped : Bool)
    (report : Except GovernorError CycleReport) : Logged Bool :=
  match report, wasStopped with
  | .error e, false => do
    Logged.entry .error (a.name ++ " governor not running: " ++ e.message)
    pure true
  | .ok _, true => do
    Logged.entry .info (a.name ++ " governor running again")
    pure false
  | _, _ => pure wasStopped

/-- Runs both governors for one cycle, steering before brake. -/
def step (z : Zone) (commands : ZoneCommands) (steeringRig brakeRig : Rig) (services : Services) :
    Logged Step := do
  let steering ← z.steering.update (z.inputs commands.steeringDeg) steeringRig services
  let brake ← z.brake.update (z.inputs commands.brakePct) brakeRig steering.services
  let steeringStopped ← trackAvailability .steering z.steeringStopped steering.report
  let brakeStopped ← trackAvailability .brake z.brakeStopped brake.report
  let mask := z.externalFaults ||| faultBitOf .steering steering.report.toOption |||
    faultBitOf .brake brake.report.toOption
  pure
    { zone :=
        { z with
          steering := steering.governor
          brake := brake.governor
          steeringStopped
          brakeStopped
          cycle := z.cycle + 1 }
      steeringRig := steering.rig
      brakeRig := brake.rig
      services := brake.services
      report :=
        { cycle := z.cycle + 1
          steering := steering.report.toOption
          brake := brake.report.toOption
          faultMask := mask
          safety := .ofFaultMask mask
          vehicleState := z.vehicleState
          emergencyStop := z.emergencyStop } }

end Zone

end FrontZone
