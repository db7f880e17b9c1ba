import FrontZone.Calibration.Validity
import FrontZone.Json.Decode
import FrontZone.Json.Reader
import FrontZone.Wire.Report
/-!
# Calibrations as documents

How calibrations are spelled in JSON, how they are read, and how a zone calibration is loaded from
the text or the bytes of a file: what is read has also to be valid.
-/

namespace FrontZone

open Json (text record ofOption required optional)

/-! ## Writing -/

/-- A ramp is written with its rate, a snap by its name. -/
def FailSafe.toJson : FailSafe → Json
  | ramp rate => variantJson "Ramp" [("rate_per_cycle", int32Json rate)]
  | snap => text "Snap"

/-- A broadcast is written with its length, disable lines by their name. -/
def Escalation.toJson : Escalation → Json
  | disableLines => text "DisableLines"
  | cutoffBroadcast count => variantJson "CutoffBroadcast" [("repeat_count", uint8Json count)]

/-- A feedback source is written by its name. -/
def FeedbackSource.toJson : FeedbackSource → Json
  | sensor => text "Sensor"
  | loopBack => text "LoopBack"

/-- A range is written by its two ends. -/
def PositionRange.toJson (r : PositionRange) : Json :=
  record [("min", int32Json r.min), ("max", int32Json r.max)]

/-- A drive domain is written by its ends and the centre between them. -/
def DriveDomain.toJson (d : DriveDomain) : Json :=
  record [("min", uint16Json d.min), ("center", uint16Json d.center), ("max", uint16Json d.max)]

/-- Every condition is written with its trouble code, or null. -/
def DtcMap.toJson (m : DtcMap) : Json :=
  record
    [("out_of_range", ofOption Dtc.toJson m.outOfRange),
      ("plausibility", ofOption Dtc.toJson m.plausibility),
      ("cmd_timeout", ofOption Dtc.toJson m.cmdTimeout),
      ("sensor_fail", ofOption Dtc.toJson m.sensorFail),
      ("summary", ofOption Dtc.toJson m.summary)]

/-- A calibration is written with all of its quantities. -/
def Calibration.toJson (c : Calibration) : Json :=
  record
    [("name", text c.name),
      ("signal_scale", int32Json c.signalScale),
      ("range", c.range.toJson),
      ("safe_value", int32Json c.safeValue),
      ("initial_position", int32Json c.initialPosition),
      ("plausibility_threshold", int32Json c.plausibilityThreshold),
      ("plausibility_debounce_cycles", uint16Json c.plausibilityDebounceCycles),
      ("rate_limit", int32Json c.rateLimit),
      ("cmd_timeout_cycles", uint16Json c.cmdTimeoutCycles),
      ("fail_safe", c.failSafe.toJson),
      ("latch_clear_cycles", uint16Json c.latchClearCycles),
      ("output", c.output.toJson),
      ("escalation", c.escalation.toJson),
      ("feedback", c.feedback.toJson),
      ("dtc", c.dtc.toJson)]

/-- A zone calibration is written as that of each governor and the telemetry period. -/
def ZoneCalibration.toJson (z : ZoneCalibration) : Json :=
  record
    [("steering", z.steering.toJson),
      ("brake", z.brake.toJson),
      ("telemetry_every_cycles", uint32Json z.telemetryEveryCycles)]

/-! ## Reading -/

/-- Reads a fail-safe; a ramp needs its rate. -/
def FailSafe.ofJson? (j : Json) : Option FailSafe := do
  match ← j.variant? with
  | ("Ramp", some parts) =>
    let [rate] ← parts.fields? ["rate_per_cycle"] | none
    return ramp (← required Json.int32? rate)
  | ("Snap", parts) => if Json.isPlain parts then some snap else none
  | _ => none

/-- Reads an escalation; a broadcast needs its length. -/
def Escalation.ofJson? (j : Json) : Option Escalation := do
  match ← j.variant? with
  | ("CutoffBroadcast", some parts) =>
    let [count] ← parts.fields? ["repeat_count"] | none
    return cutoffBroadcast (← required Json.uint8? count)
  | ("DisableLines", parts) => if Json.isPlain parts then some disableLines else none
  | _ => none

/-- Reads the name of a feedback source. -/
def FeedbackSource.ofJson? : Json → Option FeedbackSource :=
  Json.plain? [("Sensor", sensor), ("LoopBack", loopBack)]

/-- Reads a range, which may be empty. -/
def PositionRange.ofJson? (j : Json) : Option PositionRange := do
  let [min, max] ← j.fields? ["min", "max"] | none
  return { min := ← required Json.int32? min, max := ← required Json.int32? max }

/-- Reads a drive domain, whatever the order of its ends. -/
def DriveDomain.ofJson? (j : Json) : Option DriveDomain := do
  let [min, center, max] ← j.fields? ["min", "center", "max"] | none
  return {
    min := ← required Json.uint16? min
    center := ← required Json.uint16? center
    max := ← required Json.uint16? max }

/-- Reads a trouble code, a bare number. -/
def Dtc.ofJson? (j : Json) : Option Dtc := j.uint32?.map Dtc.mk

/-- Reads trouble codes; a condition that is left out has none. -/
def DtcMap.ofJson? (j : Json) : Option DtcMap := do
  let [outOfRange, plausibility, cmdTimeout, sensorFail, summary] ←
    j.fields? ["out_of_range", "plausibility", "cmd_timeout", "sensor_fail", "summary"] | none
  return {
    outOfRange := ← optional Dtc.ofJson? outOfRange
    plausibility := ← optional Dtc.ofJson? plausibility
    cmdTimeout := ← optional Dtc.ofJson? cmdTimeout
    sensorFail := ← optional Dtc.ofJson? sensorFail
    summary := ← optional Dtc.ofJson? summary }

/-- Reads a calibration, which need not be valid. -/
def Calibration.ofJson? (j : Json) : Option Calibration := do
  let [name, signalScale, range, safeValue, initialPosition, plausibilityThreshold, debounce,
      rateLimit, cmdTimeout, failSafe, latchClear, output, escalation, feedback, dtc] ←
    j.fields? ["name", "signal_scale", "range", "safe_value", "initial_position",
      "plausibility_threshold", "plausibility_debounce_cycles", "rate_limit", "cmd_timeout_cycles",
      "fail_safe", "latch_clear_cycles", "output", "escalation", "feedback", "dtc"] | none
  return {
    name := ← required Json.asText? name
    signalScale := ← required Json.int32? signalScale
    range := ← required PositionRange.ofJson? range
    safeValue := ← required Json.int32? safeValue
    initialPosition := ← required Json.int32? initialPosition
    plausibilityThreshold := ← required Json.int32? plausibilityThreshold
    plausibilityDebounceCycles := ← required Json.uint16? debounce
    rateLimit := ← required Json.int32? rateLimit
    cmdTimeoutCycles := ← required Json.uint16? cmdTimeout
    failSafe := ← required FailSafe.ofJson? failSafe
    latchClearCycles := ← required Json.uint16? latchClear
    output := ← required DriveDomain.ofJson? output
    escalation := ← required Escalation.ofJson? escalation
    feedback := ← required FeedbackSource.ofJson? feedback
    dtc := ← required DtcMap.ofJson? dtc }

/-- Reads a zone calibration, which need not be valid. -/
def ZoneCalibration.ofJson? (j : Json) : Option ZoneCalibration := do
  let [steering, brake, every] ← j.fields? ["steering", "brake", "telemetry_every_cycles"] | none
  return {
    steering := ← required Calibration.ofJson? steering
    brake := ← required Calibration.ofJson? brake
    telemetryEveryCycles := ← required Json.uint32? every }

/-! ## Loading -/

/-- Why a zone calibration cannot be had from a file. -/
inductive LoadError where
  /-- The file cannot be read, or is not text. -/
  | unreadable
  /-- The text is not a zone calibration. -/
  | malformed
  /-- The zone calibration is not consistent. -/
  | invalid (error : CalibrationError)
  deriving Repr, DecidableEq

/-- The reason in words. -/
def LoadError.message : LoadError → String
  | unreadable => "cannot read config file"
  | malformed => "invalid config json"
  | invalid e => e.message

namespace ZoneCalibration

/-- The valid zone calibration that a text spells. -/
def parse (s : String) : Except LoadError ZoneCalibration :=
  match (Json.parse? s).bind ofJson? with
  | none => .error .malformed
  | some z =>
    match z.validate with
    | .ok () => .ok z
    | .error e => .error (.invalid e)

/-- The valid zone calibration in a file of these bytes; without a file there are none. -/
def load (content : Option ByteArray) : Except LoadError ZoneCalibration :=
  match content.bind String.fromUTF8? with
  | none => .error .unreadable
  | some s => parse s

end ZoneCalibration

end FrontZone
