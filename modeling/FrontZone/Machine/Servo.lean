import FrontZone.Machine
import FrontZone.Servo
/-!
# The simulated servo in machine arithmetic

The reading and the motion of a servo, operation by operation.
-/

namespace FrontZone

namespace Machine

/-- The position of a range nearest to a word. -/
def clampToRange (r : PositionRange) (value : Int32) : Checked Int32 :=
  if r.min ≤ r.max then .ok (r.clamp value) else .error .emptyBounds

/-- `n / scale` rounded to the nearest number, a half away from zero. -/
def roundDiv (n scale : Int) : Checked Int := do
  let half ← div scale 2
  if 0 ≤ n then div (← add n half) scale else div (← sub n half) scale

/-- The position of a servo in signal units. -/
def measured (s : Servo) : Checked Int32 := do
  toInt32 (← roundDiv s.actual.toInt s.scale.toInt)

/-- The exact position that a duty asks for, before it is held to the range. -/
def rawTarget (range : PositionRange) (output : DriveDomain) (duty : UInt16) : Checked Int :=
  let duty : Int := duty.toNat
  let center : Int := output.center.toNat
  let min : Int := output.min.toNat
  let max : Int := output.max.toNat
  if center ≤ duty then
    if max = center then pure 0
    else do
      let upper := if 0 ≤ range.max.toInt then range.max.toInt else 0
      div (← mul (← sub duty center) upper) (← sub max center)
  else
    if center = min then pure 0
    else do
      let lower := if range.min.toInt ≤ 0 then range.min.toInt else 0
      div (← mul (← sub duty center) (← neg lower)) (← sub center min)

/-- The position that a duty asks for. -/
def target (s : Servo) (duty : UInt16) : Checked Int32 := do
  toInt32 (← clamp s.range.min.toInt s.range.max.toInt (← rawTarget s.range s.output duty))

/-- One cycle toward the position that a duty asks for. -/
def advance (s : Servo) (duty : UInt16) : Checked Servo := do
  let moved ← limitedMove s.actual (← target s duty) s.slewPerCycle
  return { s with actual := ← clampToRange s.range moved }

/-- A servo after it was driven by duties in order. -/
def drive (s : Servo) (duties : List UInt16) : Checked Servo :=
  duties.foldlM advance s

end Machine

end FrontZone
