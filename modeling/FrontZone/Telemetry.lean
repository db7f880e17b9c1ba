import FrontZone.SensorFault
import FrontZone.Zone
/-!
# Telemetry

A telemetry frame shows the zone to the outside. One frame is due every so many cycles and, besides,
in every cycle in which the fault mask changes; frames are numbered as they are built.
-/

namespace FrontZone

/-- One actuator as telemetry shows it. -/
structure ActuatorTelemetry where
  /-- In signal units. -/
  position : Int32
  duty : UInt16
  fault : FaultCode
  disableLevel : UInt8
  latch : LatchState
  cutoffActive : Bool
  overrideActive : Bool
  deriving Repr, DecidableEq

/-- What telemetry shows of a report, positions rounded toward zero; a scale below 1 counts as 1. -/
def ActuatorTelemetry.ofReport (r : CycleReport) (signalScale : Int32) : ActuatorTelemetry where
  position := Int32.ofInt (r.position.toInt.tdiv (max signalScale 1).toInt)
  duty := r.duty
  fault := r.fault
  disableLevel := r.disableLevel
  latch := r.latch
  cutoffActive := r.cutoffActive
  overrideActive := r.overrideActive

/-- One telemetry frame. -/
structure TelemetryFrame where
  sequence : UInt32
  cycle : UInt64
  /-- Absent while the governor does not run. -/
  steering : Option ActuatorTelemetry
  brake : Option ActuatorTelemetry
  /-- Where the steering servo stands, if there is a servo. -/
  steeringFeedbackDeg : Option Int32
  faultMask : UInt8
  safety : SafetyStatus
  vehicleState : VehicleState
  emergencyStop : Bool
  activeDtcs : List Dtc
  cutoffFramesSent : UInt32
  injectedFault : Option ActiveSensorFault
  deriving Repr, DecidableEq

/-- What a frame holds besides the report. -/
structure TelemetryContext where
  steeringScale : Int32 := 0
  brakeScale : Int32 := 0
  steeringFeedbackDeg : Option Int32 := none
  activeDtcs : List Dtc := []
  cutoffFramesSent : UInt32 := 0
  injectedFault : Option ActiveSensorFault := none
  deriving Repr, DecidableEq

/-- Decides when frames are due and numbers them. -/
structure Telemetry where
  everyCycles : UInt32
  /-- Cycles since the last frame that was due. -/
  sinceLast : UInt32 := 0
  sequence : UInt32 := 0
  lastFaultMask : UInt8 := 0
  deriving Repr, DecidableEq

namespace Telemetry

/-- Telemetry with a frame every `everyCycles` cycles, where zero counts as one. -/
def every (everyCycles : UInt32) : Telemetry := { everyCycles := max everyCycles 1 }

/-- Takes in the fault mask of one cycle and says whether a frame is due. -/
def observe (t : Telemetry) (faultMask : UInt8) : Telemetry × Bool :=
  let due : Bool := t.everyCycles ≤ t.sinceLast + 1 || faultMask ≠ t.lastFaultMask
  ({ t with
      sinceLast := if due then 0 else t.sinceLast + 1
      lastFaultMask := faultMask },
    due)

/-- Builds the next frame. -/
def build (t : Telemetry) (r : ZoneReport) (c : TelemetryContext) : Telemetry × TelemetryFrame :=
  ({ t with sequence := t.sequence + 1 },
    { sequence := t.sequence + 1
      cycle := r.cycle
      steering := r.steering.map (.ofReport · c.steeringScale)
      brake := r.brake.map (.ofReport · c.brakeScale)
      steeringFeedbackDeg := c.steeringFeedbackDeg
      faultMask := r.faultMask
      safety := r.safety
      vehicleState := r.vehicleState
      emergencyStop := r.emergencyStop
      activeDtcs := c.activeDtcs
      cutoffFramesSent := c.cutoffFramesSent
      injectedFault := c.injectedFault })

end Telemetry

end FrontZone
