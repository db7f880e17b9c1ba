import FrontZone.Command
import FrontZone.Telemetry
/-!
# Reports as documents

How what the zone reports is spelled in JSON: records as objects with all their members in a fixed
order, absent parts as null, alternatives without parts by their name and others as an object of
that one name.
-/

namespace FrontZone

open Json (text record ofOption ofList nat)

/-! ## Words -/

/-- The document of a signed word. -/
def int32Json (n : Int32) : Json := .integer n.toInt

/-- The document of an 8-bit word. -/
def uint8Json (n : UInt8) : Json := nat n.toNat

/-- The document of a 16-bit word. -/
def uint16Json (n : UInt16) : Json := nat n.toNat

/-- The document of a 32-bit word. -/
def uint32Json (n : UInt32) : Json := nat n.toNat

/-- The document of a 64-bit word. -/
def uint64Json (n : UInt64) : Json := nat n.toNat

/-- An alternative with parts. -/
def variantJson (name : String) (parts : List (String × Json)) : Json :=
  record [(name, record parts)]

/-! ## Governor reports -/

/-- A fault is written by its name. -/
def FaultCode.toJson (f : FaultCode) : Json := text f.name

/-- A vehicle state is written by its name. -/
def VehicleState.toJson (s : VehicleState) : Json := text s.name

/-- The state of a latch is written with the level and fault that it holds. -/
def LatchState.toJson : LatchState → Json
  | normal => text "Normal"
  | faulted level fault =>
    variantJson "Faulted" [("level", uint8Json level), ("fault", fault.toJson)]
  | clearing level fault count =>
    variantJson "Clearing"
      [("level", uint8Json level), ("fault", fault.toJson), ("count", uint16Json count)]

/-- A transition is written with the fault that it is about. -/
def LatchTransition.toJson : LatchTransition → Json
  | none => text "None"
  | confirmed level fault =>
    variantJson "Confirmed" [("level", uint8Json level), ("fault", fault.toJson)]
  | reconfirmed fault => variantJson "Reconfirmed" [("fault", fault.toJson)]
  | relapsed fault => variantJson "Relapsed" [("fault", fault.toJson)]
  | cleared fault => variantJson "Cleared" [("fault", fault.toJson)]

/-- The report of a governor is written with all of its parts. -/
def CycleReport.toJson (r : CycleReport) : Json :=
  record
    [("position", int32Json r.position),
      ("duty", uint16Json r.duty),
      ("fault", r.fault.toJson),
      ("disable_level", uint8Json r.disableLevel),
      ("latch", r.latch.toJson),
      ("transition", r.transition.toJson),
      ("cutoff_active", .bool r.cutoffActive),
      ("override_active", .bool r.overrideActive)]

/-! ## Zone reports -/

/-- A safety verdict is written by its name. -/
def SafetyStatus.toJson (s : SafetyStatus) : Json := text s.name

/-- The report of a zone is written with null for a governor that did not run. -/
def ZoneReport.toJson (r : ZoneReport) : Json :=
  record
    [("cycle", uint64Json r.cycle),
      ("steering", ofOption CycleReport.toJson r.steering),
      ("brake", ofOption CycleReport.toJson r.brake),
      ("fault_mask", uint8Json r.faultMask),
      ("safety", r.safety.toJson),
      ("vehicle_state", r.vehicleState.toJson),
      ("emergency_stop", .bool r.emergencyStop)]

/-! ## Diagnostics -/

/-- A trouble code is written as a bare number. -/
def Dtc.toJson (d : Dtc) : Json := uint32Json d.val

/-- The outcome of a test is written by its name. -/
def EventStatus.toJson (s : EventStatus) : Json := text s.name

/-- An entry of the event store is written with all of its parts. -/
def DtcEntry.toJson (e : DtcEntry) : Json :=
  record
    [("code", e.code.toJson),
      ("test_failed", .bool e.testFailed),
      ("confirmed", .bool e.confirmed),
      ("occurrences", uint16Json e.occurrences)]

/-! ## Sensor faults and schedule -/

/-- A sensor fault is written by its name, an offset with its size. -/
def SensorFault.toJson : SensorFault → Json
  | dropout => text "Dropout"
  | offset deg => variantJson "Offset" [("deg", int32Json deg)]
  | stuck => text "Stuck"

/-- An injected fault is written with null where it lasts until it is cleared. -/
def ActiveSensorFault.toJson (f : ActiveSensorFault) : Json :=
  record
    [("fault", f.fault.toJson),
      ("remaining_cycles", ofOption uint32Json f.remainingCycles),
      ("injected_at_cycle", uint64Json f.injectedAtCycle)]

/-- The counts of an injector are written in the order of its record. -/
def InjectionStats.toJson (s : InjectionStats) : Json :=
  record
    [("total_injected", uint32Json s.totalInjected),
      ("dropouts", uint32Json s.dropouts),
      ("offsets", uint32Json s.offsets),
      ("stuck", uint32Json s.stuck),
      ("expired", uint32Json s.expired),
      ("manual_cleared", uint32Json s.manualCleared)]

/-- The counts of a schedule are written in the order of its record. -/
def ScheduleStats.toJson (s : ScheduleStats) : Json :=
  record
    [("total_scheduled", uint32Json s.totalScheduled),
      ("total_applied", uint32Json s.totalApplied),
      ("total_dropped", uint32Json s.totalDropped),
      ("currently_scheduled", uint8Json s.currentlyScheduled)]

/-! ## Status and telemetry -/

/-- The status of a simulation is written with null where there is no report yet. -/
def Status.toJson (s : Status) : Json :=
  record
    [("cycle", uint64Json s.cycle),
      ("last_report", ofOption ZoneReport.toJson s.lastReport),
      ("commands_frozen", .bool s.commandsFrozen),
      ("fault_injection", s.faultInjection.toJson),
      ("scheduler", s.scheduler.toJson),
      ("cutoff_frames_sent", uint32Json s.cutoffFramesSent)]

/-- The telemetry of an actuator is its report without the transition. -/
def ActuatorTelemetry.toJson (t : ActuatorTelemetry) : Json :=
  record
    [("position", int32Json t.position),
      ("duty", uint16Json t.duty),
      ("fault", t.fault.toJson),
      ("disable_level", uint8Json t.disableLevel),
      ("latch", t.latch.toJson),
      ("cutoff_active", .bool t.cutoffActive),
      ("override_active", .bool t.overrideActive)]

/-- A telemetry frame is written with null for what it cannot tell. -/
def TelemetryFrame.toJson (f : TelemetryFrame) : Json :=
  record
    [("sequence", uint32Json f.sequence),
      ("cycle", uint64Json f.cycle),
      ("steering", ofOption ActuatorTelemetry.toJson f.steering),
      ("brake", ofOption ActuatorTelemetry.toJson f.brake),
      ("steering_feedback_deg", ofOption int32Json f.steeringFeedbackDeg),
      ("fault_mask", uint8Json f.faultMask),
      ("safety", f.safety.toJson),
      ("vehicle_state", f.vehicleState.toJson),
      ("emergency_stop", .bool f.emergencyStop),
      ("active_dtcs", ofList Dtc.toJson f.activeDtcs),
      ("cutoff_frames_sent", uint32Json f.cutoffFramesSent),
      ("injected_fault", ofOption ActiveSensorFault.toJson f.injectedFault)]

end FrontZone
