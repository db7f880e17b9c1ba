import FrontZone.Client.Arguments
import FrontZone.Client.Exchange
import FrontZone.Session
import FrontZone.Wire.Calibration
/-!
# The program

One program with two roles. As simulator (first argument `simulate`) it runs a simulation in real
time and serves the client at the other end of standard input and output; log entries go to standard
error. As client it does what its arguments ask for, with the simulation at the other end of
standard input and output; what people are to read goes to standard error. Whoever starts the two
joins their streams, for instance by a network connection to the host and port that the client is
given.
-/

open FrontZone

namespace FrontZone

/-! ## The simulator -/

/-- The file with the calibration of the zone. -/
def configOption : Client.OptionSpec := { long := "config", short := some 'c' }

/-- The scenario to start with. -/
def scenarioOption : Client.OptionSpec :=
  { long := "scenario", short := some 's'
    accepts := Client.oneOf (Scenario.all.map (·.argument)) }

/-- The arguments of the simulator after its name. -/
def simulatorGrammar : Client.CommandSpec :=
  .mk "simulate" [configOption, scenarioOption] [] none []

/-- The length of a control cycle in milliseconds. -/
def cycleMilliseconds : UInt32 := 10

/-- Writes log entries to standard error. -/
def writeLog (entries : List LogEntry) : IO Unit :=
  entries.forM fun e => IO.eprintln e.message

/-- Sends one line. -/
def send (text : String) : IO Unit := do
  let out ← IO.getStdout
  out.putStrLn text
  out.flush

/-- The calibration from a file, or the built-in one. -/
def loadCalibration (path : Option String) : IO (Except LoadError ZoneCalibration) :=
  match path with
  | none => return .ok {}
  | some p => do
    try
      return ZoneCalibration.load (some (← IO.FS.readBinFile p))
    catch _ => return ZoneCalibration.load none

/-- Starts reading the next line from the client. -/
def nextLine : IO (Task (Except IO.Error String)) := do
  let input ← IO.getStdin
  IO.asTask input.getLine

/-- What is said of a text that spells no command. -/
def noCommand : String := "not the document of a command"

/-- What is said of a driver without next commands. -/
def farTarget : String := "the steering target is too far away"

/-- One cycle after another, with a line of the client in between whenever there is one; ends with
the client's lines, or where a cycle is undefined. -/
partial def simulate (p : Session) (waiting : Task (Except IO.Error String)) : IO UInt32 := do
  let mut p := p
  let mut waiting := waiting
  if ← IO.hasFinished waiting then
    match waiting.get with
    | .error e =>
      IO.eprintln ("client error: " ++ toString e)
      return 1
    | .ok line =>
      if line.isEmpty then return 0
      let served := Session.serveLine (fun _ => noCommand) p line
      writeLog served.entries
      p := served.value.1
      match served.value.2 with
      | .error e =>
        IO.eprintln ("client error: " ++ e.message)
        return 1
      | .ok reply =>
        if let some text := reply then send text
      waiting ← nextLine
  let processed := p.simulation.processQueue
  let ticked := processed.value.tick?
  writeLog (processed.entries ++ ticked.entries)
  match ticked.value with
  | none =>
    IO.eprintln farTarget
    return 1
  | some (simulation, frame) =>
    match frame.map TelemetryFrame.message? with
    | some (.ok text) => send text
    | some (.error e) => IO.eprintln ("failed to serialise telemetry: " ++ e.message)
    | none => pure ()
    IO.sleep cycleMilliseconds
    simulate { p with simulation } waiting

/-- Runs the simulator on its arguments. -/
def runSimulator (arguments : List String) : IO UInt32 := do
  match simulatorGrammar.read arguments with
  | .error _ =>
    IO.eprintln "usage: simulate [--config FILE] [--scenario NAME]"
    return 2
  | .ok levels =>
    let level := levels.headD ⟨"", []⟩
    match ← loadCalibration (level.value? configOption) with
    | .error e =>
      IO.eprintln e.message
      return 1
    | .ok c =>
      match Simulation.ofCalibration c with
      | .error e =>
        IO.eprintln e.message
        return 1
      | .ok s =>
        match (level.value? scenarioOption).bind Scenario.ofArgument? with
        | none => simulate { simulation := s } (← nextLine)
        | some scenario =>
          let started := s.execute ⟨0, .runScenario scenario⟩
          writeLog started.entries
          simulate { simulation := started.value.1 } (← nextLine)

/-! ## The client -/

/-- Reads lines until one is the reply to a command. -/
partial def receiveReply (id : UInt32) (input : IO.FS.Stream) : IO (Option Json) := do
  let text ← input.getLine
  if text.isEmpty then return none
  match Client.awaitReply id [(text.dropEndWhile (· = '\n')).toString] with
  | some reply => return some reply
  | none => receiveReply id input

/-- Shows telemetry until the lines end. -/
partial def monitorLines (format : String) (input : IO.FS.Stream) : IO UInt32 := do
  let text ← input.getLine
  if text.isEmpty then return 0
  IO.eprint (Client.showLine format (text.dropEndWhile (· = '\n')).toString)
  monitorLines format input

/-- Sends a request and shows the reply. -/
def runTask (i : Client.Invocation) (t : Client.Task) : IO UInt32 := do
  if i.verbose then
    IO.eprintln ("Sending " ++ t.label ++ " on " ++ i.host ++ ":" ++ i.port)
  let id := UInt32.ofNat (← IO.monoMsNow)
  send (Command.message ⟨id, t.request⟩)
  match ← receiveReply id (← IO.getStdin) with
  | some reply =>
    IO.eprint (Client.showReply t.label reply i.format)
    return 0
  | none =>
    IO.eprintln Client.connectionClosed
    return 1

/-- Runs the client on its arguments. -/
def runClient (arguments : List String) : IO UInt32 := do
  match Client.Invocation.parse arguments with
  | .error .help =>
    IO.eprintln "usage: SUBCOMMAND [ARGUMENT] [--host HOST] [--port PORT] [--format FORMAT]"
    return 0
  | .error .version =>
    IO.eprintln "0.1.0"
    return 0
  | .error .usage =>
    IO.eprintln "these arguments make no request; see --help"
    return 1
  | .ok i =>
    if i.subcommand = "monitor" then
      IO.eprint (Client.monitorHeading i.format)
      monitorLines i.format (← IO.getStdin)
    else
      match i.task with
      | .ok t => runTask i t
      | .error e =>
        IO.eprintln e.message
        return 1

end FrontZone

/-- Runs the role that the first argument names. -/
def main (arguments : List String) : IO UInt32 :=
  match arguments with
  | "simulate" :: rest => runSimulator rest
  | _ => runClient arguments
