import FrontZone.Client.Grammar
import FrontZone.Client.Names
import FrontZone.Command
import FrontZone.Text.Number
/-!
# Invocations of the client

The subcommands of the client, and what an argument list asks the simulation for.
-/

namespace FrontZone

namespace Client

/-! ## The grammar -/

/-- Whether a value is one of some names. -/
def oneOf (names : List String) (value : String) : Bool := names.contains value

/-- Whether a value is a signed word. -/
def isInt32 (value : String) : Bool := (Text.readInt32 value).toOption.isSome

/-- The address of the simulation; every subcommand has it. -/
def hostOption : OptionSpec :=
  { long := "host", short := some 'h', default := some "127.0.0.1" }

/-- Where on its host the simulation listens, kept as text until a connection is wanted. -/
def portOption : OptionSpec := { long := "port", short := some 'p', default := some "8080" }

/-- The format of what is printed. -/
def formatOption : OptionSpec :=
  { long := "format", short := some 'f', default := some "table"
    accepts := oneOf ["json", "table", "compact"] }

/-- Says more about what is sent. -/
def verboseFlag : FlagSpec := { long := "verbose", short := some 'v' }

/-- The size of an offset fault, in degrees; it may be negative. -/
def offsetOption : OptionSpec := { long := "deg", admitsDashes := true, default := some "8" }

/-- How many cycles an injected fault lasts; without it, until it is cleared. -/
def cyclesOption : OptionSpec := { long := "cycles" }

/-- A subcommand with the options that all of them have. -/
def command (name : String) (positional : Option (String → Bool) := none)
    (subcommands : List CommandSpec := []) (options : List OptionSpec := []) : CommandSpec :=
  .mk name ([hostOption, portOption, formatOption] ++ options) [verboseFlag] positional subcommands

/-- The client. -/
def grammar : CommandSpec :=
  command "client" none
    [command "ping",
      command "status",
      command "steer" (some isInt32),
      command "brake" (some isInt32),
      command "estop" (some (oneOf ["on", "off"])),
      command "vehicle-state" (some (oneOf (VehicleState.all.map (·.argument)))),
      command "fault" none
        [command "inject" (some (oneOf ["dropout", "offset", "stuck"])) []
            [offsetOption, cyclesOption],
          command "clear"],
      command "fault-injection" (some (oneOf ["on", "off"])),
      command "freeze" (some (oneOf ["on", "off"])),
      command "scenario" (some (oneOf (Scenario.all.map (·.argument)))),
      command "reinit" (some (oneOf ["steering", "brake"])),
      command "dtc" none [command "list", command "clear"],
      command "monitor"]

/-! ## Tasks -/

/-- Why a subcommand that can be read is still no request. -/
inductive TaskError where
  | number (error : Text.NumberError)
  | name (error : NameError)
  | unknownCommand (name : String)
  deriving Repr, DecidableEq

/-- The reason in words. -/
def TaskError.message : TaskError → String
  | number e => e.message
  | name e => e.message
  | unknownCommand other => "unknown command '" ++ other ++ "'"

/-- A request with the words by which people know it. -/
structure Task where
  label : String
  request : Request
  deriving Repr, DecidableEq

/-- A signed word that was given as a number. -/
def int32Of (s : String) : Except TaskError Int32 :=
  (Text.readInt32 s).mapError .number

/-- An unsigned word that was given as a number. -/
def uint32Of (s : String) : Except TaskError UInt32 :=
  (Text.readUInt32 s).mapError .number

/-- The positional argument of a level, which the grammar has made sure of. -/
def Level.argument (l : Level) : String := l.positionals.headD ""

/-- The value of an option at one level. -/
def Level.value? (l : Level) (o : OptionSpec) : Option String :=
  (l.valuesOf o.long).head?.join <|> o.default

/-- The sensor fault to be injected. -/
def sensorFaultOf (l : Level) : Except TaskError SensorFault :=
  match l.argument with
  | "offset" => (int32Of ((l.value? offsetOption).getD "8")).map .offset
  | "stuck" => .ok .stuck
  | _ => .ok .dropout

/-- The task of injecting a sensor fault. -/
def injectionTask (l : Level) : Except TaskError Task := do
  let fault ← sensorFaultOf l
  let duration ←
    match l.value? cyclesOption with
    | some s => (uint32Of s).map some
    | none => .ok none
  return ⟨"Sensor fault " ++ fault.description, .injectSensorFault fault duration⟩

/-- The task of a subcommand, given the levels below the program itself. -/
def taskOf : List Level → Except TaskError Task
  | [] => .error (.unknownCommand "")
  | l :: inner =>
    let on : Bool := l.argument = "on"
    match l.name with
    | "ping" => .ok ⟨"Ping", .ping⟩
    | "status" => .ok ⟨"Status", .status⟩
    | "steer" => do
      let deg ← int32Of l.argument
      return ⟨"Steering target " ++ toString deg ++ " deg", .setSteering deg⟩
    | "brake" => do
      let pct ← int32Of l.argument
      return ⟨"Brake target " ++ toString pct ++ " %", .setBrake pct⟩
    | "estop" => .ok ⟨"Emergency stop", .emergencyStop on⟩
    | "vehicle-state" => do
      let state ← (vehicleStateNamed l.argument).mapError .name
      return ⟨"Vehicle state " ++ state.name, .setVehicleState state⟩
    | "fault" =>
      match inner with
      | i :: _ =>
        if i.name = "inject" then injectionTask i
        else .ok ⟨"Clear sensor fault", .clearSensorFault⟩
      | [] => .ok ⟨"Clear sensor fault", .clearSensorFault⟩
    | "fault-injection" => .ok ⟨"Random fault injection", .setFaultInjection on⟩
    | "freeze" => .ok ⟨"Freeze driver commands", .freezeCommands on⟩
    | "scenario" => do
      let scenario ← (scenarioNamed l.argument).mapError .name
      return ⟨"Scenario " ++ scenario.name, .runScenario scenario⟩
    | "reinit" =>
      let actuator : Actuator := if l.argument = "brake" then .brake else .steering
      .ok ⟨"Reinitialise " ++ actuator.name, .restart actuator⟩
    | "dtc" =>
      if inner.head?.any (·.name = "clear") then .ok ⟨"Clear DTCs", .clearDtcs⟩
      else .ok ⟨"DTCs", .getDtcs⟩
    | other => .error (.unknownCommand other)

/-! ## Invocations -/

/-- What an argument list asks for. -/
structure Invocation where
  host : String
  port : String
  format : String
  verbose : Bool
  /-- The name of the subcommand. -/
  subcommand : String
  task : Except TaskError Task

/-- The invocation of an argument list. -/
def Invocation.parse (arguments : List String) : Except Refusal Invocation := do
  let levels ← grammar.read arguments
  return {
    host := globalValue hostOption levels
    port := globalValue portOption levels
    format := globalValue formatOption levels
    verbose := globalFlag verboseFlag levels
    subcommand := ((levels.drop 1).head?.map (·.name)).getD ""
    task := taskOf (levels.drop 1) }

end Client

end FrontZone
