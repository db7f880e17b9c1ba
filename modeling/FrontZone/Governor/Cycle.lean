import FrontZone.Governor
import FrontZone.Log
/-!
# One control cycle

A cycle is a function of the calibration, the state and what the cycle brings: the inputs, the
sensor's reading and whether the bus would accept a frame. It gives the next state, the report and
what is to be done to the world, kind by kind and each kind in order. Nothing done to the world
comes back within the cycle, so no order between the kinds can be seen.

Two kinds of cycle share the outputs (`finish`): a held cycle, in which the emergency stop or the
vehicle state forces the safe value and no input is looked at, and a governed cycle, which goes
through monitors, motion and latch.
-/

namespace FrontZone

namespace Governor

/-- What a cycle does besides changing the state. -/
structure Outcome where
  state : State
  report : CycleReport
  /-- Disable lines to write, in order. -/
  lineWrites : List (DisableLine × Bool)
  /-- Trouble codes to report, in order. -/
  events : List (Dtc × EventStatus)
  /-- The motor-cutoff frame is to be sent. -/
  sendsCutoff : Bool
  notes : List LogEntry
  deriving Repr, DecidableEq

/-! ## Monitors -/

/-- What a governed cycle finds out about its inputs. -/
structure Findings where
  /-- The command in internal units, if the range admits it. -/
  accepted : Option Int32
  /-- The position to compare it with; a failed read gives none. -/
  reference : Option Int32
  plausibility : Plausibility
  staleness : Staleness
  deriving Repr, DecidableEq

/-- The position that commands are compared with. -/
def referencePosition (c : Calibration) (s : State) (reading : Option Int32) : Option Int32 :=
  match c.feedback with
  | .sensor => reading.map c.toInternal
  | .loopBack => some (s.staleness.lastCommand.getD s.position)

/-- Runs the monitors on a command and a reading, both in signal units. Plausibility is evaluated
only where there are both a command and a reference, staleness only on accepted commands. -/
def examine (c : Calibration) (s : State) (command : Int32) (reading : Option Int32) : Findings :=
  let accepted := c.range.accept (c.toInternal command)
  let reference := referencePosition c s reading
  { accepted
    reference
    plausibility :=
      match reference, accepted with
      | some r, some k => s.plausibility.check k r c.plausibilityThreshold
      | _, _ => s.plausibility
    staleness :=
      match accepted with
      | some k => s.staleness.observe k
      | none => s.staleness }

namespace Findings

/-- Whether command and reference have disagreed for too long, this cycle included. -/
def failsPlausibility (f : Findings) (c : Calibration) : Bool :=
  f.reference.isSome && f.accepted.isSome &&
    f.plausibility.isConfirmed c.plausibilityDebounceCycles

/-- Whether the command has been the same for too long. -/
def isStale (f : Findings) (c : Calibration) : Bool :=
  f.staleness.isStale c.cmdTimeoutCycles

/-- The fault condition of the cycle: the first that applies. -/
def condition (f : Findings) (c : Calibration) : Option FaultCode :=
  if f.reference.isNone then some .sensorFail
  else if f.accepted.isNone then some .outOfRange
  else if f.failsPlausibility c then some .plausibility
  else if f.isStale c && c.failSafe.latchesTimeout then some .cmdTimeout
  else none

end Findings

/-! ## Motion -/

/-- The position that a governed cycle moves to: down the ramp if there is one and the command is
stale, else toward the accepted command under the slew limit. -/
def nextPosition (c : Calibration) (position : Int32) (accepted : Option Int32) (stale : Bool) :
    Int32 :=
  match c.failSafe, stale with
  | .ramp rate, true => rampToward position c.safeValue rate
  | _, _ => rateLimit position (accepted.getD position) c.safeValue c.rateLimit

/-! ## Reporting -/

/-- The trouble code of a kind of fault. -/
def dtcFor (c : Calibration) : FaultCode → Option Dtc
  | .outOfRange => c.dtc.outOfRange
  | .plausibility => c.dtc.plausibility
  | .cmdTimeout => c.dtc.cmdTimeout
  | .sensorFail => c.dtc.sensorFail
  | .noFault => none
  | .rateExceeded => none

/-- The report of a code that may not be configured. -/
def reportOf (code : Option Dtc) (status : EventStatus) : List (Dtc × EventStatus) :=
  code.toList.map (·, status)

/-- What is reported of a stale command that does not latch: the edges only. -/
def timeoutEvents (c : Calibration) (was now : Bool) : List (Dtc × EventStatus) :=
  if now = was then []
  else reportOf c.dtc.cmdTimeout (if now then .failed else .passed)

/-- What is logged of a stale command that does not latch. -/
def timeoutNotes (c : Calibration) (was now : Bool) : List LogEntry :=
  if now = was then []
  else if now then [⟨.warning, c.name ++ ": command stale, returning to safe value"⟩]
  else [⟨.debug, c.name ++ ": command stream resumed"⟩]

/-- The kinds of fault met in the episode, after a latch transition. -/
def nextEpisode (episode : List FaultCode) : LatchTransition → List FaultCode
  | .none => episode
  | .confirmed _ fault => episode.insert fault
  | .reconfirmed fault => episode.insert fault
  | .relapsed fault => episode.insert fault
  | .cleared _ => []

/-- What is reported of a latch transition; the end of an episode reports every kind of fault met
in it as passed. -/
def transitionEvents (c : Calibration) (episode : List FaultCode) :
    LatchTransition → List (Dtc × EventStatus)
  | .none => []
  | .confirmed _ fault => reportOf (dtcFor c fault) .failed ++ reportOf c.dtc.summary .failed
  | .reconfirmed fault => reportOf (dtcFor c fault) .failed
  | .relapsed fault => reportOf (dtcFor c fault) .failed ++ reportOf c.dtc.summary .failed
  | .cleared _ =>
    (FaultCode.latchable.filter (· ∈ episode)).flatMap
        (fun kind => reportOf (dtcFor c kind) .passed) ++
      reportOf c.dtc.summary .passed

/-- What is logged of a latch transition. -/
def transitionNotes (c : Calibration) : LatchTransition → List LogEntry
  | .none => []
  | .confirmed level fault =>
    ⟨.warning,
      c.name ++ ": " ++ fault.name ++ " confirmed, disable level " ++ toString level⟩ ::
      if level = maxDisableLevel then
        [⟨.error, c.name ++ ": escalation at maximum level " ++ toString level⟩]
      else []
  | .reconfirmed fault => [⟨.warning, c.name ++ ": " ++ fault.name ++ " confirmed while latched"⟩]
  | .relapsed fault =>
    [⟨.warning, c.name ++ ": " ++ fault.name ++ " returned before latch cleared"⟩]
  | .cleared fault => [⟨.info, c.name ++ ": latch cleared after " ++ fault.name⟩]

/-! ## Outputs -/

/-- The disable lines that a state calls for. -/
def wantedLines (c : Calibration) (s : State) : LinePattern :=
  match c.escalation with
  | .disableLines => .ofLevel s.latch.activeLevel
  | .cutoffBroadcast _ => s.lines

/-- The cutoff broadcast after one cycle. -/
def State.tickCutoff (s : State) (busAccepts : Bool) : Option Cutoff × Broadcast :=
  match s.cutoff with
  | none => (none, .idle)
  | some n =>
    let (next, broadcast) := n.tick busAccepts
    (some next, broadcast)

/-- The outputs of a cycle that arrives at state `s`: disable lines that changed, the drive signal
and the cutoff frame. -/
def finish (c : Calibration) (s : State) (transition : LatchTransition) (override busAccepts : Bool)
    (events : List (Dtc × EventStatus)) (notes : List LogEntry) : Outcome :=
  let wanted := wantedLines c s
  let (cutoff, broadcast) := s.tickCutoff busAccepts
  let sends : Bool := broadcast ≠ .idle
  { state := { s with lines := wanted, cutoff }
    report :=
      { position := s.position
        duty := mapToDrive s.position c.range c.output
        fault := s.fault
        disableLevel := s.latch.disableLevel
        latch := s.latch.state
        transition
        cutoffActive := s.cutoff.isSome && (sends || s.fault ≠ .noFault)
        overrideActive := override }
    lineWrites := LinePattern.writes s.lines wanted
    events
    sendsCutoff := sends
    notes :=
      if broadcast = .refused then
        notes ++
          [⟨.warning, c.name ++ ": motor cutoff broadcast failed: bus transmit rejected"⟩]
      else notes }

/-! ## Cycles -/

/-- A cycle in which the safe value is forced: nothing but the position and a running cutoff
broadcast moves. -/
def heldCycle (c : Calibration) (s : State) (busAccepts : Bool) : Outcome :=
  finish c { s with position := c.safeValue } .none true busAccepts [] []

/-- The state that a governed cycle arrives at, with the latch transition on the way. -/
def governedState (c : Calibration) (s : State) (f : Findings) : State × LatchTransition :=
  let (latch, transition) := s.latch.step (f.condition c)
  let moved := nextPosition c s.position f.accepted (f.isStale c)
  ({ s with
      position := if latch.isEngaged then c.safeValue else moved
      plausibility := f.plausibility
      staleness := f.staleness
      latch
      timeoutActive := if c.failSafe.latchesTimeout then s.timeoutActive else f.isStale c
      episode := nextEpisode s.episode transition
      cutoff := if transition.arms then s.cutoff.map Cutoff.arm else s.cutoff },
    transition)

/-- A cycle that follows the command. -/
def governedCycle (c : Calibration) (s : State) (command : Int32) (reading : Option Int32)
    (busAccepts : Bool) : Outcome :=
  let f := examine c s command reading
  let (next, transition) := governedState c s f
  finish c next transition false busAccepts
    (timeoutEvents c s.timeoutActive next.timeoutActive ++
      transitionEvents c s.episode transition)
    (timeoutNotes c s.timeoutActive next.timeoutActive ++ transitionNotes c transition)

/-- One cycle. The reading is used only in a governed cycle of a calibration with a sensor. -/
def cycle (c : Calibration) (s : State) (inputs : CycleInputs) (reading : Option Int32)
    (busAccepts : Bool) : Outcome :=
  if inputs.isOverride then heldCycle c s busAccepts
  else governedCycle c s inputs.command reading busAccepts

end Governor

end FrontZone
