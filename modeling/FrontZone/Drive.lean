import FrontZone.Calibration
/-!
# Drive output

The governed position becomes a drive signal: positions above zero are spread over the upper half of
the drive domain, positions below zero over the lower half. At the higher escalation levels two
lines disable the actuator besides.
-/

namespace FrontZone

/-! ## The drive signal -/

/-- The drive value of a position before it is held to the domain. -/
def driveValue (position : Int) (range : PositionRange) (domain : DriveDomain) : Int :=
  let center : Int := domain.center.toNat
  if 0 < position ∧ 0 < range.max.toInt then
    center + (position * (domain.max.toNat - center)).tdiv range.max.toInt
  else if position < 0 ∧ range.min.toInt < 0 then
    center + (position * (center - domain.min.toNat)).tdiv (-range.min.toInt)
  else center

/-- The drive signal of a position. -/
def mapToDrive (position : Int32) (range : PositionRange) (domain : DriveDomain) : UInt16 :=
  UInt16.ofInt
    (clampInt domain.min.toNat domain.max.toNat (driveValue position.toInt range domain))

/-- `mapToDrive`, which is undefined on an empty domain. -/
def mapToDrive? (position : Int32) (range : PositionRange) (domain : DriveDomain) :
    Option UInt16 :=
  if domain.min ≤ domain.max then some (mapToDrive position range domain) else none

/-! ## Disable lines -/

/-- The lines that disable an actuator in hardware. -/
inductive DisableLine where
  | primary
  | secondary
  deriving Repr, DecidableEq

/-- Which of the disable lines are asserted. -/
structure LinePattern where
  primary : Bool := false
  secondary : Bool := false
  deriving Repr, DecidableEq

namespace LinePattern

/-- Neither line asserted. -/
def released : LinePattern := {}

/-- Whether a line is asserted. -/
def get (p : LinePattern) : DisableLine → Bool
  | .primary => p.primary
  | .secondary => p.secondary

/-- The pattern after one write. -/
def set (p : LinePattern) : DisableLine → Bool → LinePattern
  | .primary, on => { p with primary := on }
  | .secondary, on => { p with secondary := on }

/-- The pattern of an escalation level. -/
def ofLevel (level : UInt8) : LinePattern where
  primary := 2 ≤ level
  secondary := 3 ≤ level

/-- The writes that turn one pattern into another: the lines that differ, primary first. -/
def writes (old new : LinePattern) : List (DisableLine × Bool) :=
  [DisableLine.primary, .secondary].filterMap fun line =>
    if new.get line = old.get line then none else some (line, new.get line)

end LinePattern

end FrontZone
