import FrontZone.Command
import FrontZone.Json.Decode
import FrontZone.Wire.Report
/-!
# Commands as documents

How commands and replies are spelled in JSON and how commands are read.
-/

namespace FrontZone

open Json (text record ofOption required optional)

/-! ## Writing -/

/-- A scenario is written by its name. -/
def Scenario.toJson (s : Scenario) : Json := text s.name

/-- An actuator is written by its name. -/
def Actuator.toJson (a : Actuator) : Json := text a.name

/-- A request is written by its name, with its parts if it has any. -/
def Request.toJson : Request → Json
  | ping => text "Ping"
  | status => text "Status"
  | setSteering deg => variantJson "SetSteering" [("deg", int32Json deg)]
  | setBrake pct => variantJson "SetBrake" [("pct", int32Json pct)]
  | emergencyStop active => variantJson "EmergencyStop" [("active", .bool active)]
  | setVehicleState state => variantJson "SetVehicleState" [("state", state.toJson)]
  | injectSensorFault fault duration =>
    variantJson "InjectSensorFault"
      [("fault", fault.toJson), ("duration_cycles", ofOption uint32Json duration)]
  | clearSensorFault => text "ClearSensorFault"
  | setFaultInjection enabled => variantJson "SetFaultInjection" [("enabled", .bool enabled)]
  | freezeCommands frozen => variantJson "FreezeCommands" [("frozen", .bool frozen)]
  | runScenario scenario => variantJson "RunScenario" [("scenario", scenario.toJson)]
  | restart actuator => variantJson "Reinitialize" [("actuator", actuator.toJson)]
  | getDtcs => text "GetDtcs"
  | clearDtcs => text "ClearDtcs"

/-- A command is written as its number and its request. -/
def Command.toJson (c : Command) : Json :=
  record [("id", uint32Json c.id), ("command_type", c.request.toJson)]

/-- A stimulus is written like the request of the same effect. -/
def Stimulus.toJson : Stimulus → Json
  | setSteering deg => variantJson "SetSteering" [("deg", int32Json deg)]
  | setBrake pct => variantJson "SetBrake" [("pct", int32Json pct)]
  | emergencyStop active => variantJson "EmergencyStop" [("active", .bool active)]
  | setVehicleState state => variantJson "SetVehicleState" [("state", state.toJson)]
  | injectSensorFault fault duration =>
    variantJson "InjectSensorFault"
      [("fault", fault.toJson), ("duration_cycles", ofOption uint32Json duration)]
  | clearSensorFault => text "ClearSensorFault"
  | freezeCommands frozen => variantJson "FreezeCommands" [("frozen", .bool frozen)]

/-- A scheduled stimulus is written with the cycle in which it is due. -/
def ScheduledStimulus.toJson (s : ScheduledStimulus) : Json :=
  record [("at_cycle", uint64Json s.atCycle), ("stimulus", s.stimulus.toJson)]

/-- The status of a reply is written by its name. -/
def ReplyStatus.toJson (s : ReplyStatus) : Json := text s.name

/-- A reply is written with null for a message or data that it lacks. -/
def Reply.toJson (r : Reply) : Json :=
  record
    [("id", uint32Json r.id),
      ("cycle", uint64Json r.cycle),
      ("status", r.status.toJson),
      ("message", ofOption text r.message),
      ("data", r.data.getD .null)]

/-! ## Reading -/

/-- Reads the name of a fault. -/
def FaultCode.ofJson? : Json → Option FaultCode :=
  Json.plain?
    ([noFault, outOfRange, plausibility, rateExceeded, cmdTimeout, sensorFail].map
      fun f => (f.name, f))

/-- Reads the name of a vehicle state. -/
def VehicleState.ofJson? : Json → Option VehicleState :=
  Json.plain? ([init, run, degraded, limp, safeStop, shutdown].map fun s => (s.name, s))

/-- Reads the name of a scenario. -/
def Scenario.ofJson? : Json → Option Scenario :=
  Json.plain?
    ([nominal, sensorDropout, plausibilityDrift, staleCommands, repeatedFaults, emergencyStop].map
      fun s => (s.name, s))

/-- Reads the name of an actuator. -/
def Actuator.ofJson? : Json → Option Actuator :=
  Json.plain? ([steering, brake].map fun a => (a.name, a))

/-- Reads a sensor fault; an offset needs its size. -/
def SensorFault.ofJson? (j : Json) : Option SensorFault := do
  match ← j.variant? with
  | ("Offset", some parts) =>
    let [deg] ← parts.fields? ["deg"] | none
    return offset (← required Json.int32? deg)
  | ("Dropout", parts) => if Json.isPlain parts then some dropout else none
  | ("Stuck", parts) => if Json.isPlain parts then some stuck else none
  | _ => none

/-- The single part of an alternative. -/
def onlyPart? {α : Type} (name : String) (part? : Json → Option α) (parts : Json) : Option α := do
  let [part] ← parts.fields? [name] | none
  required part? part

/-- The parts of a fault to be injected. -/
def faultParts? (parts : Json) : Option (SensorFault × Option UInt32) := do
  let [fault, duration] ← parts.fields? ["fault", "duration_cycles"] | none
  return (← required SensorFault.ofJson? fault, ← optional Json.uint32? duration)

/-- The requests without parts. -/
def Request.plain : List (String × Request) :=
  [("Ping", ping), ("Status", status), ("ClearSensorFault", clearSensorFault),
    ("GetDtcs", getDtcs), ("ClearDtcs", clearDtcs)]

/-- Reads a request, by name and with exactly the parts that it has. -/
def Request.ofJson? (j : Json) : Option Request := do
  match ← j.variant? with
  | ("SetSteering", some p) => return setSteering (← onlyPart? "deg" Json.int32? p)
  | ("SetBrake", some p) => return setBrake (← onlyPart? "pct" Json.int32? p)
  | ("EmergencyStop", some p) => return emergencyStop (← onlyPart? "active" Json.asBool? p)
  | ("SetVehicleState", some p) =>
    return setVehicleState (← onlyPart? "state" VehicleState.ofJson? p)
  | ("InjectSensorFault", some p) =>
    let (fault, duration) ← faultParts? p
    return injectSensorFault fault duration
  | ("SetFaultInjection", some p) => return setFaultInjection (← onlyPart? "enabled" Json.asBool? p)
  | ("FreezeCommands", some p) => return freezeCommands (← onlyPart? "frozen" Json.asBool? p)
  | ("RunScenario", some p) => return runScenario (← onlyPart? "scenario" Scenario.ofJson? p)
  | ("Reinitialize", some p) => return restart (← onlyPart? "actuator" Actuator.ofJson? p)
  | (name, parts) => if Json.isPlain parts then Request.plain.lookup name else none

/-- Reads a command; both of its parts are needed. -/
def Command.ofJson? (j : Json) : Option Command := do
  let [id, request] ← j.fields? ["id", "command_type"] | none
  return { id := ← required Json.uint32? id, request := ← required Request.ofJson? request }

/-- Reads a stimulus, by name and with exactly the parts that it has. -/
def Stimulus.ofJson? (j : Json) : Option Stimulus := do
  match ← j.variant? with
  | ("SetSteering", some p) => return setSteering (← onlyPart? "deg" Json.int32? p)
  | ("SetBrake", some p) => return setBrake (← onlyPart? "pct" Json.int32? p)
  | ("EmergencyStop", some p) => return emergencyStop (← onlyPart? "active" Json.asBool? p)
  | ("SetVehicleState", some p) =>
    return setVehicleState (← onlyPart? "state" VehicleState.ofJson? p)
  | ("InjectSensorFault", some p) =>
    let (fault, duration) ← faultParts? p
    return injectSensorFault fault duration
  | ("FreezeCommands", some p) => return freezeCommands (← onlyPart? "frozen" Json.asBool? p)
  | ("ClearSensorFault", parts) => if Json.isPlain parts then some clearSensorFault else none
  | _ => none

end FrontZone
