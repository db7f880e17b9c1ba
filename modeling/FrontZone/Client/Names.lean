import FrontZone.Stimulus
/-!
# Names on the command line

The names by which people call scenarios and vehicle states.
-/

namespace FrontZone

/-- The name of a scenario on the command line. -/
def Scenario.argument : Scenario → String
  | nominal => "nominal"
  | sensorDropout => "sensor-dropout"
  | plausibilityDrift => "plausibility-drift"
  | staleCommands => "stale-commands"
  | repeatedFaults => "repeated-faults"
  | emergencyStop => "emergency-stop"

/-- All scenarios. -/
def Scenario.all : List Scenario :=
  [nominal, sensorDropout, plausibilityDrift, staleCommands, repeatedFaults, emergencyStop]

/-- The scenario of a name on the command line. -/
def Scenario.ofArgument? (name : String) : Option Scenario :=
  Scenario.all.find? (·.argument = name)

/-- The name of a vehicle state on the command line. -/
def VehicleState.argument : VehicleState → String
  | init => "init"
  | run => "run"
  | degraded => "degraded"
  | limp => "limp"
  | safeStop => "safe-stop"
  | shutdown => "shutdown"

/-- All vehicle states. -/
def VehicleState.all : List VehicleState := [init, run, degraded, limp, safeStop, shutdown]

/-- The vehicle state of a name on the command line. -/
def VehicleState.ofArgument? (name : String) : Option VehicleState :=
  VehicleState.all.find? (·.argument = name)

namespace Client

/-- A name that nothing is called by. -/
inductive NameError where
  | vehicleState (name : String)
  | scenario (name : String)
  deriving Repr, DecidableEq

/-- The reason in words. -/
def NameError.message : NameError → String
  | vehicleState name => "unknown vehicle state '" ++ name ++ "'"
  | scenario name => "unknown scenario '" ++ name ++ "'"

/-- The vehicle state that somebody calls for. -/
def vehicleStateNamed (name : String) : Except NameError VehicleState :=
  match VehicleState.ofArgument? name with
  | some s => .ok s
  | none => .error (.vehicleState name)

/-- The scenario that somebody calls for. -/
def scenarioNamed (name : String) : Except NameError Scenario :=
  match Scenario.ofArgument? name with
  | some s => .ok s
  | none => .error (.scenario name)

end Client

end FrontZone
