import FrontZone.Zone
/-!
# The driver

The simulated driver turns targets into commands. Steering moves toward its target by one degree
every fourth cycle, more slowly than the governor's slew limit, so that the servo keeps up. Every
other cycle both commands are nudged by one unit toward zero (up from zero itself), so that an
attentive driver never looks stale; a frozen driver repeats the last commands.

Targets are taken as they are. One that is so far from the steering value that their difference is
no word gives no direction to move in, which `steer?` and `next?` say, while `steer` and `next` are
total: there words wrap around.
-/

namespace FrontZone

/-- In how many cycles the driver steers by one degree. -/
def driverSteerInterval : UInt32 := 4

/-- The driver. -/
structure DriverModel where
  steeringTarget : Int32 := 0
  steering : Int32 := 0
  brake : Int32 := 0
  frozen : Bool := false
  toggle : Bool := false
  steerCounter : UInt32 := 0
  last : ZoneCommands := {}
  deriving Repr, DecidableEq

/-- One for a word above zero, minus one for a word below, zero for zero. -/
def signOf (value : Int32) : Int32 :=
  if 0 < value then 1 else if value < 0 then -1 else 0

/-- A value moved by `nudge` toward zero, or up if it is zero. -/
def towardZero (value nudge : Int32) : Int32 :=
  if 0 < value then value - nudge else value + nudge

namespace DriverModel

/-- Sets the steering target. -/
def setSteering (d : DriverModel) (deg : Int32) : DriverModel := { d with steeringTarget := deg }

/-- Sets the brake target, which is followed at once. -/
def setBrake (d : DriverModel) (pct : Int32) : DriverModel := { d with brake := pct }

/-- Freezes or releases the driver. -/
def setFrozen (d : DriverModel) (frozen : Bool) : DriverModel := { d with frozen }

/-- Moves the steering value if its turn has come. -/
def steer (d : DriverModel) : DriverModel :=
  if driverSteerInterval ≤ d.steerCounter + 1 then
    { d with
      steerCounter := 0
      steering := d.steering + signOf (d.steeringTarget - d.steering) }
  else { d with steerCounter := d.steerCounter + 1 }

/-- `steer`, which is undefined where the turn has come and a number on the way is no word. -/
def steer? (d : DriverModel) : Option DriverModel :=
  if driverSteerInterval ≤ d.steerCounter + 1 then do
    let missing ← word? (d.steeringTarget.toInt - d.steering.toInt)
    let steering ← word? (d.steering.toInt + (signOf missing).toInt)
    some { d with steerCounter := 0, steering }
  else some { d with steerCounter := d.steerCounter + 1 }

/-- The commands that the present values and nudge amount to. -/
def commands (d : DriverModel) : ZoneCommands :=
  let nudge : Int32 := if d.toggle then 1 else 0
  ⟨towardZero d.steering nudge, towardZero d.brake nudge⟩

/-- Gives out the commands of a cycle after the steering value has been seen to. -/
def issue (d : DriverModel) : DriverModel × ZoneCommands :=
  let d := { d with toggle := !d.toggle }
  ({ d with last := d.commands }, d.commands)

/-- The commands of the next cycle. -/
def next (d : DriverModel) : DriverModel × ZoneCommands :=
  if d.frozen then (d, d.last) else d.steer.issue

/-- `next`, which is undefined where `steer?` is; a frozen driver does not steer. -/
def next? (d : DriverModel) : Option (DriverModel × ZoneCommands) :=
  if d.frozen then some (d, d.last) else d.steer?.map issue

end DriverModel

end FrontZone
