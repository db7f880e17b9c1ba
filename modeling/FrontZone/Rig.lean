import FrontZone.Recent
import FrontZone.Servo
/-!
# Simulated actuator hardware

A rig is one actuator's hardware as the simulation has it: a feedback sensor, which may be given
faults, the drive output and the two disable lines. Everything written is recorded.

A sensor backed by a servo whose calibration gives it no reading, or no motion, makes the rig
`illPosed` from then on: its values mean nothing any more. No rig built from a valid calibration
becomes so.
-/

namespace FrontZone

/-- What the feedback sensor measures. -/
inductive Feedback where
  /-- A value set from outside. -/
  | scripted (value : Int32)
  | servo (servo : Servo)
  deriving Repr, DecidableEq

/-- The faults given to a feedback sensor. -/
structure Disturbance where
  /-- Every read fails. -/
  failReads : Bool := false
  /-- So many reads fail. -/
  pendingFailures : UInt32 := 0
  /-- Added to every reading. -/
  offset : Int32 := 0
  /-- Read in place of the measured value. -/
  stuckAt : Option Int32 := none
  deriving Repr, DecidableEq

/-- How many line writes a rig remembers. -/
def maxLineWrites : Nat := 32

/-- The simulated hardware of one actuator. -/
structure Rig where
  feedback : Feedback
  disturbance : Disturbance := {}
  reads : UInt32 := 0
  lastDuty : Option UInt16 := none
  dutyWrites : UInt32 := 0
  lines : LinePattern := .released
  /-- The newest line writes, oldest first. -/
  lineWrites : List (DisableLine × Bool) := []
  illPosed : Bool := false
  deriving Repr, DecidableEq

namespace Rig

/-- A rig whose sensor reports a value set from outside. -/
def scripted (value : Int32) : Rig := { feedback := .scripted value }

/-- A rig whose sensor measures a servo. -/
def withServo (s : Servo) : Rig := { feedback := .servo s }

/-- The servo behind the sensor, if there is one. -/
def servo? (r : Rig) : Option Servo :=
  match r.feedback with
  | .servo s => some s
  | .scripted _ => none

/-! ## The sensor -/

/-- Replaces what the sensor measures by a value set from outside. -/
def setFeedback (r : Rig) (value : Int32) : Rig := { r with feedback := .scripted value }

/-- Gives the sensor these faults and no others. -/
def disturb (r : Rig) (d : Disturbance) : Rig := { r with disturbance := d }

/-- Takes all faults from the sensor. -/
def clearFaults (r : Rig) : Rig := r.disturb {}

/-- What the sensor measures without faults. -/
def measured (r : Rig) : Int32 :=
  match r.feedback with
  | .scripted value => value
  | .servo s => s.measured

/-- Whether the sensor has something to measure. -/
def isMeasurable (r : Rig) : Bool :=
  match r.feedback with
  | .scripted _ => true
  | .servo s => s.measured?.isSome

/-- One read of the sensor, which fails or gives a value in signal units. -/
def read (r : Rig) : Rig × Option Int32 :=
  let r := { r with reads := countUp32 r.reads }
  let d := r.disturbance
  if d.pendingFailures ≠ 0 then
    (r.disturb { d with pendingFailures := d.pendingFailures - 1 }, none)
  else if d.failReads then (r, none)
  else
    ({ r with illPosed := r.illPosed || !r.isMeasurable },
      some (saturate ((d.stuckAt.getD r.measured).toInt + d.offset.toInt)))

/-! ## The outputs -/

/-- Writes the drive signal. -/
def writeDuty (r : Rig) (duty : UInt16) : Rig :=
  { r with lastDuty := some duty, dutyWrites := countUp32 r.dutyWrites }

/-- Writes a disable line. -/
def writeLine (r : Rig) (line : DisableLine) (on : Bool) : Rig :=
  { r with
    lines := r.lines.set line on
    lineWrites := pushRecent maxLineWrites r.lineWrites (line, on) }

/-- Writes disable lines in order. -/
def writeLines (r : Rig) (writes : List (DisableLine × Bool)) : Rig :=
  writes.foldl (fun r w => r.writeLine w.1 w.2) r

/-- Lets the servo, if there is one, follow the last drive signal for a cycle. -/
def advance (r : Rig) : Rig :=
  match r.feedback, r.lastDuty with
  | .servo s, some duty =>
    { r with
      feedback := .servo (s.advance duty)
      illPosed := r.illPosed || (s.advance? duty).isNone }
  | _, _ => r

end Rig

end FrontZone
