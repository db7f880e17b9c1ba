import FrontZone.Json.Value
import FrontZone.Simulation
import FrontZone.Wire.Command
/-!
# Carrying out commands

Every command is answered with the cycle at which it was carried out. Faults and scenarios go
through the schedule and may be refused for lack of room; everything else takes effect at once.
Commands may also wait in a bounded queue until they are processed together; their replies are kept
until fetched, the newest ones only.
-/

namespace FrontZone

namespace Simulation

/-! ## One command -/

/-- The reply of the present cycle. -/
def reply (s : Simulation) (c : Command) (status : ReplyStatus) (message : String) : Reply where
  id := c.id
  cycle := s.cycle
  status
  message := some message

/-- Lets a stimulus happen at once and answers in the given words. -/
def applyNow (s : Simulation) (c : Command) (stimulus : Stimulus) (message : String) :
    Logged (Simulation × Reply) := do
  let reply := s.reply c .success message
  pure (← s.apply stimulus, reply)

/-- Schedules a scenario from the present cycle on. -/
def runScenario (s : Simulation) (c : Command) (scenario : Scenario) :
    Logged (Simulation × Reply) :=
  let (schedule, result) := s.schedule.load scenario s.cycle
  let s := { s with schedule }
  match result with
  | .ok count => do
    Logged.entry .info
      ("scenario " ++ scenario.name ++ " loaded with " ++ toString count ++ " stimuli")
    pure (s, s.reply c .success (toString count ++ " stimuli scheduled"))
  | .error e => pure (s, s.reply c .rejected e.message)

/-- Schedules a sensor fault for the start of the next cycle. -/
def scheduleFault (s : Simulation) (c : Command) (fault : SensorFault) (duration : Option UInt32) :
    Simulation × Reply :=
  let (schedule, result) :=
    s.schedule.schedule s.cycle (.injectSensorFault fault duration) s.cycle
  let s := { s with schedule }
  match result with
  | .ok () => (s, s.reply c .success "sensor fault scheduled")
  | .error e => (s, s.reply c .rejected e.message)

/-- Starts a governor over from its calibration. -/
def restart (s : Simulation) (c : Command) (a : Actuator) : Logged (Simulation × Reply) := do
  let calibration :=
    match a with
    | .steering => s.calibration.steering
    | .brake => s.calibration.brake
  let (zone, result) ← s.zone.reinit a (some calibration)
  let s := { s with zone }
  match result with
  | .ok () => pure (s, s.reply c .success "governor re-initialised")
  | .error e => pure (s, s.reply c .error e.message)

/-- Carries out a command. -/
def execute (s : Simulation) (c : Command) : Logged (Simulation × Reply) :=
  match c.request with
  | .ping => pure (s, s.reply c .success "pong")
  | .status =>
    pure (s, { s.reply c .success "status" with data := some s.status.toJson.sorted })
  | .setSteering deg => s.applyNow c (.setSteering deg) "steering target set"
  | .setBrake pct => s.applyNow c (.setBrake pct) "brake target set"
  | .emergencyStop active =>
    s.applyNow c (.emergencyStop active) (if active then "e-stop asserted" else "e-stop released")
  | .setVehicleState state => s.applyNow c (.setVehicleState state) "vehicle state set"
  | .injectSensorFault fault duration => pure (s.scheduleFault c fault duration)
  | .clearSensorFault => s.applyNow c .clearSensorFault "sensor fault cleared"
  | .setFaultInjection enabled =>
    pure
      ({ s with injector := s.injector.setEnabled enabled },
        s.reply c .success "fault injection updated")
  | .freezeCommands frozen => s.applyNow c (.freezeCommands frozen) "driver commands updated"
  | .runScenario scenario => s.runScenario c scenario
  | .restart actuator => s.restart c actuator
  | .getDtcs =>
    let data := (Json.ofList DtcEntry.toJson s.services.events.entries).sorted
    pure (s, { s.reply c .success "dtcs" with data := some data })
  | .clearDtcs =>
    let services := { s.services with events := s.services.events.clear }
    pure ({ s with services }, s.reply c .success "dtcs cleared")

/-! ## The queue -/

/-- How many commands can wait. -/
def maxQueuedCommands : Nat := 15

/-- How many replies are kept. -/
def maxReplies : Nat := 16

/-- Lets a command wait, if there is room. -/
def enqueue (s : Simulation) (c : Command) : Option Simulation :=
  if s.queue.length < maxQueuedCommands then some { s with queue := s.queue ++ [c] } else none

/-- Carries out commands in order and keeps their replies. -/
def executeAll : List Command → Simulation → Logged Simulation
  | [], s => pure s
  | c :: rest, s => do
    let (s, reply) ← s.execute c
    executeAll rest { s with replies := pushRecent maxReplies s.replies reply }

/-- Carries out all commands that wait. -/
def processQueue (s : Simulation) : Logged Simulation :=
  executeAll s.queue { s with queue := [] }

/-- Fetches the replies kept. -/
def takeReplies (s : Simulation) : Simulation × List Reply :=
  ({ s with replies := [] }, s.replies)

end Simulation

end FrontZone
