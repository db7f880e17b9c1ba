import FrontZone.Rig
/-!
# Sensor faults

The faults that the simulation can give to the steering sensor, and what each does to a rig.
-/

namespace FrontZone

/-- A fault of the feedback sensor. -/
inductive SensorFault where
  /-- Every read fails. -/
  | dropout
  /-- Readings are off by a constant number of degrees. -/
  | offset (deg : Int32)
  /-- Readings stay at the value measured when the fault began. -/
  | stuck
  deriving Repr, DecidableEq

/-- A fault in words. -/
def SensorFault.description : SensorFault → String
  | dropout => "Dropout"
  | offset deg => "Offset \x7b deg: " ++ toString deg ++ " \x7d"
  | stuck => "Stuck"

/-- A fault in force. -/
structure ActiveSensorFault where
  fault : SensorFault
  /-- Further cycles it lasts; without a number it lasts until cleared. -/
  remainingCycles : Option UInt32
  injectedAtCycle : UInt64
  deriving Repr, DecidableEq

namespace Rig

/-- The value at which a sensor of this rig freezes: that of its servo, or zero without one. -/
def frozenValue (r : Rig) : Int32 :=
  (r.servo?.map (·.measured)).getD 0

/-- The disturbance of the sensor that a fault amounts to on this rig. -/
def disturbanceOf (r : Rig) : SensorFault → Disturbance
  | .dropout => { failReads := true }
  | .offset deg => { offset := deg }
  | .stuck => { stuckAt := some r.frozenValue }

/-- Gives the sensor one fault in place of any it had. -/
def suffer (r : Rig) (fault : SensorFault) : Rig :=
  { r.disturb (r.disturbanceOf fault) with
    illPosed := r.illPosed || (fault = .stuck && !r.isMeasurable) }

end Rig

end FrontZone
