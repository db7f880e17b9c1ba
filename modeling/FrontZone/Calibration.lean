import FrontZone.Diagnostics
/-!
# Calibration of an actuator

A calibration says how one actuator is governed: its units and range, the limits of its monitors,
what it falls back to, how it escalates and which trouble codes it reports. `steering` and `brake`
are the calibrations of the front zone; a `ZoneCalibration` holds one for each actuator.
-/

namespace FrontZone

/-- The highest level to which a fault latch escalates. -/
def maxDisableLevel : UInt8 := 3

/-! ## Parts of a calibration -/

/-- What happens once the command stream goes stale. -/
inductive FailSafe where
  /-- Walk back to the safe value by so many internal units a cycle. -/
  | ramp (ratePerCycle : Int32)
  /-- Jump to the safe value and latch. -/
  | snap
  deriving Repr, DecidableEq

/-- Whether a stale command counts as a fault to be latched. -/
def FailSafe.latchesTimeout : FailSafe → Bool
  | ramp _ => false
  | snap => true

/-- What a confirmed fault does besides forcing the safe output. -/
inductive Escalation where
  /-- Disable lines: none at level 1, the primary at level 2, both at level 3. -/
  | disableLines
  /-- The motor-cutoff frame, for so many consecutive cycles. -/
  | cutoffBroadcast (repeatCount : UInt8)
  deriving Repr, DecidableEq

/-- Where the plausibility monitor takes its reference from. -/
inductive FeedbackSource where
  /-- A position sensor of its own. -/
  | sensor
  /-- The command accepted before. -/
  | loopBack
  deriving Repr, DecidableEq

/-- The positions an actuator may be sent to, in internal units. -/
structure PositionRange where
  min : Int32
  max : Int32
  deriving Repr, DecidableEq

namespace PositionRange

/-- Whether a position lies in the range, ends included. -/
def contains (r : PositionRange) (value : Int32) : Bool :=
  r.min ≤ value && value ≤ r.max

/-- The position of the range nearest to `value`, for a range that is not empty. -/
def clamp (r : PositionRange) (value : Int32) : Int32 :=
  if value < r.min then r.min else if r.max < value then r.max else value

/-- `clamp`, which is undefined on an empty range. -/
def clamp? (r : PositionRange) (value : Int32) : Option Int32 :=
  if r.min ≤ r.max then some (r.clamp value) else none

end PositionRange

/-- The values a drive signal may take, with the one that means neutral. -/
structure DriveDomain where
  min : UInt16
  center : UInt16
  max : UInt16
  deriving Repr, DecidableEq

/-- The trouble code of each kind of fault; a kind without one is not reported. -/
structure DtcMap where
  outOfRange : Option Dtc := none
  plausibility : Option Dtc := none
  cmdTimeout : Option Dtc := none
  sensorFail : Option Dtc := none
  /-- Reported along with every confirmed fault. -/
  summary : Option Dtc := none
  deriving Repr, DecidableEq

/-! ## Calibrations -/

/-- How one actuator is governed. -/
structure Calibration where
  name : String
  /-- Internal units in one signal unit (degree or percent). -/
  signalScale : Int32
  range : PositionRange
  safeValue : Int32
  initialPosition : Int32
  plausibilityThreshold : Int32
  plausibilityDebounceCycles : UInt16
  /-- The most internal units per cycle away from the safe value. -/
  rateLimit : Int32
  cmdTimeoutCycles : UInt16
  failSafe : FailSafe
  latchClearCycles : UInt16
  output : DriveDomain
  escalation : Escalation
  feedback : FeedbackSource
  dtc : DtcMap
  deriving Repr, DecidableEq

namespace Calibration

/-- The front-axle steering servo: 45 degrees to either side, in tenths of a degree, driven by
pulses of 1000 to 2000 microseconds. -/
def steering : Calibration where
  name := "steering"
  signalScale := 10
  range := ⟨-450, 450⟩
  safeValue := 0
  initialPosition := 0
  plausibilityThreshold := 50
  plausibilityDebounceCycles := 5
  rateLimit := 3
  cmdTimeoutCycles := 10
  failSafe := .ramp 3
  latchClearCycles := 50
  output := ⟨1000, 1500, 2000⟩
  escalation := .disableLines
  feedback := .sensor
  dtc :=
    { outOfRange := some Dtc.steerRange
      plausibility := some Dtc.steerPlausibility
      cmdTimeout := some Dtc.steerTimeout
      sensorFail := some Dtc.steerSensor }

/-- The brake: 0 to 100 percent of force, where full force is safe and may be applied or released
within one cycle. -/
def brake : Calibration where
  name := "brake"
  signalScale := 1
  range := ⟨0, 100⟩
  safeValue := 100
  initialPosition := 0
  plausibilityThreshold := 2
  plausibilityDebounceCycles := 3
  rateLimit := 100
  cmdTimeoutCycles := 10
  failSafe := .snap
  latchClearCycles := 50
  output := ⟨0, 0, 100⟩
  escalation := .cutoffBroadcast 10
  feedback := .loopBack
  dtc :=
    { plausibility := some Dtc.brakePlausibility
      cmdTimeout := some Dtc.brakeTimeout
      summary := some Dtc.brakeFault }

/-- A value in signal units as internal units, held at the ends of the word. -/
def toInternal (c : Calibration) (signal : Int32) : Int32 :=
  saturate (signal.toInt * c.signalScale.toInt)

/-- An internal value as signal units, rounded toward zero. -/
def toSignal (c : Calibration) (internal : Int32) : Int32 :=
  Int32.ofInt (internal.toInt.tdiv c.signalScale.toInt)

/-- `toSignal`, which is undefined for a scale of zero and where the quotient exceeds the word. -/
def toSignal? (c : Calibration) (internal : Int32) : Option Int32 :=
  if c.signalScale = 0 ∨ (internal = Int32.minValue ∧ c.signalScale = -1) then none
  else some (c.toSignal internal)

end Calibration

/-- The calibration of both actuators and the pace of telemetry. -/
structure ZoneCalibration where
  steering : Calibration := .steering
  brake : Calibration := .brake
  /-- One telemetry frame every so many cycles. -/
  telemetryEveryCycles : UInt32 := 10
  deriving Repr, DecidableEq

end FrontZone
