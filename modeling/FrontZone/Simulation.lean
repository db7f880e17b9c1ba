import FrontZone.Command
import FrontZone.DriverModel
import FrontZone.Injector
import FrontZone.Schedule
import FrontZone.Telemetry
import FrontZone.Calibration.Validity
/-!
# The simulation

A simulation plays everything around a zone: the driver, the steering servo, the services of the
control unit, fault injection and scripted stimuli. Each `tick` is one control cycle of 10 ms.
Commands are carried out between ticks, either at once or from a bounded queue
(`FrontZone.Simulation.Execution`).
-/

namespace FrontZone

/-- The slew of the simulated steering servo per cycle, 30 degrees a second. -/
def servoSlewPerCycle : Int32 := 3

/-- A zone with its surroundings. -/
structure Simulation where
  calibration : ZoneCalibration
  zone : Zone
  steeringRig : Rig
  brakeRig : Rig
  services : Services := {}
  injector : Injector := {}
  schedule : Schedule := {}
  driver : DriverModel := {}
  telemetry : Telemetry
  /-- Commands that wait, oldest first. -/
  queue : List Command := []
  /-- The newest replies not yet fetched, oldest first. -/
  replies : List Reply := []
  lastReport : Option ZoneReport := none

namespace Simulation

/-- A simulation at its start. -/
def ofCalibration (c : ZoneCalibration) : Except CalibrationError Simulation := do
  c.validate
  let zone ← Zone.ofCalibration c
  return {
    calibration := c
    zone
    steeringRig := .withServo (.ofCalibration c.steering servoSlewPerCycle)
    brakeRig := .scripted c.brake.initialPosition
    telemetry := .every c.telemetryEveryCycles }

/-- The number of cycles run. -/
def cycle (s : Simulation) : UInt64 := s.zone.cycle

/-- What the simulation tells about itself. -/
def status (s : Simulation) : Status where
  cycle := s.cycle
  lastReport := s.lastReport
  commandsFrozen := s.driver.frozen
  faultInjection := s.injector.stats
  scheduler := s.schedule.stats
  cutoffFramesSent := s.services.bus.cutoffFrames

/-! ## Stimuli -/

/-- Gives the steering sensor a fault at once. -/
def injectFault (s : Simulation) (fault : SensorFault) (duration : Option UInt32) :
    Logged Simulation := do
  let (injector, rig) ← s.injector.inject fault duration s.steeringRig
  pure { s with injector, steeringRig := rig }

/-- Takes the fault from the steering sensor. -/
def clearFault (s : Simulation) : Simulation :=
  let (injector, rig) := s.injector.clear s.steeringRig
  { s with injector, steeringRig := rig }

/-- Lets one stimulus happen. -/
def apply (s : Simulation) : Stimulus → Logged Simulation
  | .setSteering deg => pure { s with driver := s.driver.setSteering deg }
  | .setBrake pct => pure { s with driver := s.driver.setBrake pct }
  | .emergencyStop active => do
    if active then Logged.entry .warning "emergency stop asserted"
    else Logged.entry .info "emergency stop released"
    pure { s with zone := s.zone.setEmergencyStop active }
  | .setVehicleState state => do
    let zone ← s.zone.setVehicleState state
    pure { s with zone }
  | .injectSensorFault fault duration => s.injectFault fault duration
  | .clearSensorFault => pure s.clearFault
  | .freezeCommands frozen => pure { s with driver := s.driver.setFrozen frozen }

/-- Lets stimuli happen in order. -/
def applyAll : List Stimulus → Simulation → Logged Simulation
  | [], s => pure s
  | stimulus :: rest, s => do applyAll rest (← s.apply stimulus)

/-! ## The tick -/

/-- The fault in force ages before anything else, so that one injected in this cycle counts it. -/
def openCycle (s : Simulation) : Logged Simulation := do
  let (injector, rig) ← s.injector.update s.steeringRig
  pure { s with injector, steeringRig := rig }

/-- The scheduled stimuli that are due happen. -/
def applyDue (s : Simulation) : Logged Simulation :=
  let (schedule, due) := s.schedule.takeDue s.cycle
  applyAll due { s with schedule }

/-- The zone runs on the driver's commands, and the servo follows. -/
def control (s : Simulation) : Logged Simulation := do
  let (driver, commands) := s.driver.next
  let step ← s.zone.step commands s.steeringRig s.brakeRig s.services
  pure
    { s with
      driver
      zone := step.zone
      steeringRig := step.steeringRig.advance
      brakeRig := step.brakeRig
      services := step.services
      lastReport := some step.report }

/-- What telemetry shows besides the report. -/
def telemetryContext (s : Simulation) : TelemetryContext where
  steeringScale := s.calibration.steering.signalScale
  brakeScale := s.calibration.brake.signalScale
  steeringFeedbackDeg := s.steeringRig.servo?.map (·.measured)
  activeDtcs := s.services.events.activeCodes
  cutoffFramesSent := s.services.bus.cutoffFrames
  injectedFault := s.injector.active

/-- The telemetry frame of a cycle, if one is due. -/
def emit (s : Simulation) (report : ZoneReport) : Simulation × Option TelemetryFrame :=
  let (telemetry, due) := s.telemetry.observe report.faultMask
  if due then
    let (telemetry, frame) := telemetry.build report s.telemetryContext
    ({ s with telemetry }, some frame)
  else ({ s with telemetry }, none)

/-- One control cycle, with its telemetry frame if one is due. -/
def tick (s : Simulation) : Logged (Simulation × Option TelemetryFrame) := do
  let s ← s.openCycle
  let s ← s.applyDue
  let s ← s.control
  match s.lastReport with
  | some report => pure (s.emit report)
  | none => pure (s, none)

/-- What comes before the driver is asked in a cycle. -/
def prepare (s : Simulation) : Logged Simulation := do
  (← s.openCycle).applyDue

/-- `tick`, which is undefined where the driver has no next commands; nothing is logged after it was
asked for them. -/
def tick? (s : Simulation) : Logged (Option (Simulation × Option TelemetryFrame)) :=
  if s.prepare.value.driver.next?.isSome then some <$> s.tick
  else (fun _ => none) <$> s.prepare

end Simulation

end FrontZone
