import FrontZone.Diagnostics
import FrontZone.Governor.Cycle
import FrontZone.Rig
/-!
# Running a governor on its hardware

`Governor.update` runs one cycle on a rig and the services of the control unit: it reads the sensor
if the cycle asks for it, runs the cycle and carries out what the cycle decided. A governor that is
not initialised touches nothing.
-/

namespace FrontZone

/-- The services shared by the governors of one control unit. -/
structure Services where
  events : EventStore := {}
  bus : Bus := {}
  deriving Repr, DecidableEq

namespace Governor

/-- A governor with everything that one update may have changed, and the update's answer. -/
structure Update where
  governor : Governor
  rig : Rig
  services : Services
  report : Except GovernorError CycleReport

/-- Whether a cycle reads the sensor. -/
def readsSensor (c : Calibration) (inputs : CycleInputs) : Bool :=
  !inputs.isOverride && c.feedback = .sensor

/-- The rig after the sensor access of a cycle, and the reading. -/
def sense (c : Calibration) (inputs : CycleInputs) (rig : Rig) : Rig × Option Int32 :=
  if readsSensor c inputs then rig.read else (rig, none)

/-- Carries out on the rig what a cycle decided: disable lines first, then the drive signal. -/
def Outcome.onRig (o : Outcome) (rig : Rig) : Rig :=
  (rig.writeLines o.lineWrites).writeDuty o.report.duty

/-- Carries out on the services what a cycle decided. -/
def Outcome.onServices (o : Outcome) (services : Services) : Services where
  events := services.events.recordAll o.events
  bus := if o.sendsCutoff then services.bus.transmit .motorCutoff else services.bus

/-- Runs one control cycle. -/
def update (g : Governor) (inputs : CycleInputs) (rig : Rig) (services : Services) :
    Logged Update :=
  match g.active with
  | none => pure ⟨g, rig, services, .error .uninitialized⟩
  | some ⟨c, s⟩ =>
    let (rig, reading) := sense c inputs rig
    let outcome := cycle c s inputs reading (!services.bus.rejects)
    do
      Logged.all outcome.notes
      pure
        { governor := ⟨some ⟨c, outcome.state⟩⟩
          rig := outcome.onRig rig
          services := outcome.onServices services
          report := .ok outcome.report }

end Governor

end FrontZone
