import FrontZone.Drive
/-!
# The simulated servo

A servo follows the drive signal at a bounded rate and reports where it stands in signal units. Its
calibration is taken as it is: a servo of an empty range cannot move and one of scale zero has no
reading, which `advance?` and `measured?` say, while `advance` and `measured` are total.
-/

namespace FrontZone

/-- A servo and where it stands. -/
structure Servo where
  range : PositionRange
  output : DriveDomain
  scale : Int32
  slewPerCycle : Int32
  /-- In internal units. -/
  actual : Int32
  deriving Repr, DecidableEq

namespace Servo

/-- A servo at its initial position, moving by at least one unit a cycle. -/
def ofCalibration (c : Calibration) (slewPerCycle : Int32) : Servo where
  range := c.range
  output := c.output
  scale := c.signalScale
  slewPerCycle := max slewPerCycle 1
  actual := c.initialPosition

/-! ## The reading -/

/-- `n / scale` rounded to the nearest number, a half away from zero (for a scale above zero). -/
def roundDiv (n scale : Int) : Int :=
  let half := scale.tdiv 2
  if 0 ≤ n then (n + half).tdiv scale else (n - half).tdiv scale

/-- The position in signal units. -/
def measured (s : Servo) : Int32 :=
  Int32.ofInt (roundDiv s.actual.toInt s.scale.toInt)

/-- `measured`, which is undefined for a scale of zero. -/
def measured? (s : Servo) : Option Int32 :=
  if s.scale = 0 then none else some s.measured

/-! ## The motion -/

/-- The exact position a duty asks for, before it is held to the range. -/
def rawTarget (range : PositionRange) (output : DriveDomain) (duty : UInt16) : Int :=
  let duty : Int := duty.toNat
  let center : Int := output.center.toNat
  let min : Int := output.min.toNat
  let max : Int := output.max.toNat
  if center ≤ duty then
    if max = center then 0
    else
      ((duty - center) * (if 0 ≤ range.max.toInt then range.max.toInt else 0)).tdiv (max - center)
  else
    if center = min then 0
    else
      ((duty - center) * -(if range.min.toInt ≤ 0 then range.min.toInt else 0)).tdiv (center - min)

/-- The position a duty asks for. -/
def target (s : Servo) (duty : UInt16) : Int :=
  clampInt s.range.min.toInt s.range.max.toInt (rawTarget s.range s.output duty)

/-- One cycle toward the position that a duty asks for. -/
def advance (s : Servo) (duty : UInt16) : Servo :=
  let actual := s.actual.toInt
  let slew := s.slewPerCycle.toInt
  let moved := actual + clampInt (-slew) slew (s.target duty - actual)
  { s with actual := s.range.clamp (Int32.ofInt moved) }

/-- `advance`, which is undefined on an empty range. -/
def advance? (s : Servo) (duty : UInt16) : Option Servo :=
  if s.range.min ≤ s.range.max then some (s.advance duty) else none

end Servo

end FrontZone
