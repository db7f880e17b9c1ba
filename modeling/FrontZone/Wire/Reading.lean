import FrontZone.Json.Value
import FrontZone.Wire.Command
/-!
# Reading reports

Reports, telemetry frames and replies taken back from their documents, for whoever receives them.
-/

namespace FrontZone

open Json (required optional)

/-! ## Governor reports -/

/-- A level and a fault, the parts of several alternatives. -/
def levelAndFault? (parts : Json) : Option (UInt8 × FaultCode) := do
  let [level, fault] ← parts.fields? ["level", "fault"] | none
  return (← required Json.uint8? level, ← required FaultCode.ofJson? fault)

/-- Reads the state of a latch. -/
def LatchState.ofJson? (j : Json) : Option LatchState := do
  match ← j.variant? with
  | ("Faulted", some parts) =>
    let (level, fault) ← levelAndFault? parts
    return faulted level fault
  | ("Clearing", some parts) =>
    let [level, fault, count] ← parts.fields? ["level", "fault", "count"] | none
    return clearing (← required Json.uint8? level) (← required FaultCode.ofJson? fault)
      (← required Json.uint16? count)
  | ("Normal", parts) => if Json.isPlain parts then some normal else none
  | _ => none

/-- Reads the transition of a latch. -/
def LatchTransition.ofJson? (j : Json) : Option LatchTransition := do
  match ← j.variant? with
  | ("Confirmed", some parts) =>
    let (level, fault) ← levelAndFault? parts
    return confirmed level fault
  | ("Reconfirmed", some parts) => return reconfirmed (← onlyPart? "fault" FaultCode.ofJson? parts)
  | ("Relapsed", some parts) => return relapsed (← onlyPart? "fault" FaultCode.ofJson? parts)
  | ("Cleared", some parts) => return cleared (← onlyPart? "fault" FaultCode.ofJson? parts)
  | ("None", parts) => if Json.isPlain parts then some none else Option.none
  | _ => Option.none

/-- Reads the report of one governor on one cycle. -/
def CycleReport.ofJson? (j : Json) : Option CycleReport := do
  let [position, duty, fault, level, latch, transition, cutoff, override] ←
    j.fields? ["position", "duty", "fault", "disable_level", "latch", "transition",
      "cutoff_active", "override_active"] | none
  return {
    position := ← required Json.int32? position
    duty := ← required Json.uint16? duty
    fault := ← required FaultCode.ofJson? fault
    disableLevel := ← required Json.uint8? level
    latch := ← required LatchState.ofJson? latch
    transition := ← required LatchTransition.ofJson? transition
    cutoffActive := ← required Json.asBool? cutoff
    overrideActive := ← required Json.asBool? override }

/-! ## Zone reports -/

/-- Reads the name of a safety verdict. -/
def SafetyStatus.ofJson? : Json → Option SafetyStatus :=
  Json.plain? ([ok, degraded, fault].map fun s => (s.name, s))

/-- Reads the report of a zone; a governor that did not run has none. -/
def ZoneReport.ofJson? (j : Json) : Option ZoneReport := do
  let [cycle, steering, brake, mask, safety, state, stop] ←
    j.fields? ["cycle", "steering", "brake", "fault_mask", "safety", "vehicle_state",
      "emergency_stop"] | none
  return {
    cycle := ← required Json.uint64? cycle
    steering := ← optional CycleReport.ofJson? steering
    brake := ← optional CycleReport.ofJson? brake
    faultMask := ← required Json.uint8? mask
    safety := ← required SafetyStatus.ofJson? safety
    vehicleState := ← required VehicleState.ofJson? state
    emergencyStop := ← required Json.asBool? stop }

/-! ## Telemetry -/

/-- Reads an injected fault; without remaining cycles it lasts until it is cleared. -/
def ActiveSensorFault.ofJson? (j : Json) : Option ActiveSensorFault := do
  let [fault, remaining, injectedAt] ←
    j.fields? ["fault", "remaining_cycles", "injected_at_cycle"] | none
  return {
    fault := ← required SensorFault.ofJson? fault
    remainingCycles := ← optional Json.uint32? remaining
    injectedAtCycle := ← required Json.uint64? injectedAt }

/-- Reads the telemetry of one actuator. -/
def ActuatorTelemetry.ofJson? (j : Json) : Option ActuatorTelemetry := do
  let [position, duty, fault, level, latch, cutoff, override] ←
    j.fields? ["position", "duty", "fault", "disable_level", "latch", "cutoff_active",
      "override_active"] | none
  return {
    position := ← required Json.int32? position
    duty := ← required Json.uint16? duty
    fault := ← required FaultCode.ofJson? fault
    disableLevel := ← required Json.uint8? level
    latch := ← required LatchState.ofJson? latch
    cutoffActive := ← required Json.asBool? cutoff
    overrideActive := ← required Json.asBool? override }

/-- The trouble codes of an array. -/
def dtcs? (j : Json) : Option (List Dtc) := do
  (← j.asArray?).mapM fun code => code.uint32?.map Dtc.mk

/-- Reads a telemetry frame. -/
def TelemetryFrame.ofJson? (j : Json) : Option TelemetryFrame := do
  let [sequence, cycle, steering, brake, feedback, mask, safety, state, stop, dtcs, sent, fault] ←
    j.fields? ["sequence", "cycle", "steering", "brake", "steering_feedback_deg", "fault_mask",
      "safety", "vehicle_state", "emergency_stop", "active_dtcs", "cutoff_frames_sent",
      "injected_fault"] | none
  return {
    sequence := ← required Json.uint32? sequence
    cycle := ← required Json.uint64? cycle
    steering := ← optional ActuatorTelemetry.ofJson? steering
    brake := ← optional ActuatorTelemetry.ofJson? brake
    steeringFeedbackDeg := ← optional Json.int32? feedback
    faultMask := ← required Json.uint8? mask
    safety := ← required SafetyStatus.ofJson? safety
    vehicleState := ← required VehicleState.ofJson? state
    emergencyStop := ← required Json.asBool? stop
    activeDtcs := ← required dtcs? dtcs
    cutoffFramesSent := ← required Json.uint32? sent
    injectedFault := ← optional ActiveSensorFault.ofJson? fault }

/-! ## Replies -/

/-- Reads the name of the status of a reply. -/
def ReplyStatus.ofJson? : Json → Option ReplyStatus :=
  Json.plain? ([success, error, invalidCommand, rejected].map fun s => (s.name, s))

/-- Reads a reply; its data may be any value at all. -/
def Reply.ofJson? (j : Json) : Option Reply := do
  let [id, cycle, status, message, data] ←
    j.fields? ["id", "cycle", "status", "message", "data"] | none
  return {
    id := ← required Json.uint32? id
    cycle := ← required Json.uint64? cycle
    status := ← required ReplyStatus.ofJson? status
    message := ← optional Json.asText? message
    data := ← optional Json.value? data }

end FrontZone
