import FrontZone.Governor.Update
import FrontZone.Machine
/-!
# The control path in machine arithmetic

One control cycle and the reading of the position, operation by operation: everything that a
governor computes with numbers is computed as a machine does, and everything else is that of
`FrontZone.Governor.Cycle`. The hardware and the services are no part of it: what they answer comes
as it is.
-/

namespace FrontZone

namespace Machine

open Governor (State Findings Outcome Update)

/-! ## Monitors -/

/-- Takes in one sample of the plausibility monitor. -/
def check (p : Plausibility) (command reference threshold : Int32) : Checked Plausibility := do
  if distance command reference > threshold.toInt.natAbs then return ⟨← countUp16 p.count⟩
  else return ⟨0⟩

/-- Takes in an accepted command for the staleness monitor. -/
def observe (s : Staleness) (command : Int32) : Checked Staleness := do
  if s.lastCommand = some command then return { s with count := ← countUp16 s.count }
  else return ⟨some command, 1⟩

/-- The plausibility monitor where there are both a command and a reference. -/
def checkFound (c : Calibration) (s : State) (reference accepted : Option Int32) :
    Checked Plausibility :=
  match reference, accepted with
  | some r, some k => check s.plausibility k r c.plausibilityThreshold
  | _, _ => pure s.plausibility

/-- The staleness monitor where there is an accepted command. -/
def observeAccepted (s : State) : Option Int32 → Checked Staleness
  | some k => observe s.staleness k
  | none => pure s.staleness

/-- Runs the monitors on a command and a reading, both in signal units. Conversion to internal units
saturates. -/
def examine (c : Calibration) (s : State) (command : Int32) (reading : Option Int32) :
    Checked Findings := do
  let accepted := c.range.accept (c.toInternal command)
  let reference := Governor.referencePosition c s reading
  let plausibility ← checkFound c s reference accepted
  let staleness ← observeAccepted s accepted
  return { accepted, reference, plausibility, staleness }

/-! ## Motion -/

/-- The position reached under the slew limit around `safe`. -/
def rateLimit (position target safe limit : Int32) : Checked Int32 := do
  if distance target safe ≤ distance position safe then return target
  else limitedMove position target limit

/-- The position that a governed cycle moves to. The ramp saturates. -/
def nextPosition (c : Calibration) (position : Int32) (accepted : Option Int32) (stale : Bool) :
    Checked Int32 :=
  match c.failSafe, stale with
  | .ramp rate, true => pure (rampToward position c.safeValue rate)
  | _, _ => rateLimit position (accepted.getD position) c.safeValue c.rateLimit

/-! ## The latch -/

/-- The level of an episode that begins after one of level `level`. -/
def nextLevel (level : UInt8) : Checked UInt8 := do
  return min (← succUInt8 level) maxDisableLevel

/-- One cycle of the latch. It counts where an episode begins and where it is about to end. -/
def stepLatch (l : Latch) (condition : Option FaultCode) : Checked (Latch × LatchTransition) :=
  match l.state, condition with
  | .normal, some fault => do
    let level ← nextLevel l.disableLevel
    return ({ l with state := .faulted level fault, disableLevel := level }, .confirmed level fault)
  | .clearing level fault count, none => do
    let next := Latch.countClear l.clearCycles level fault (← countUp16 count)
    return ({ l with state := next.1 }, next.2)
  | _, _ => pure (l.step condition)

/-- The state that a governed cycle arrives at, with the latch transition on the way. -/
def governedState (c : Calibration) (s : State) (f : Findings) :
    Checked (State × LatchTransition) := do
  let moved ← nextPosition c s.position f.accepted (f.isStale c)
  let (latch, transition) ← stepLatch s.latch (f.condition c)
  let next : State :=
    { s with
      position := if latch.isEngaged then c.safeValue else moved
      plausibility := f.plausibility
      staleness := f.staleness
      latch
      timeoutActive := if c.failSafe.latchesTimeout then s.timeoutActive else f.isStale c
      episode := Governor.nextEpisode s.episode transition
      cutoff := if transition.arms then s.cutoff.map Cutoff.arm else s.cutoff }
  return (next, transition)

/-! ## Outputs -/

/-- The drive value of a position before it is held to the domain. -/
def driveValue (position : Int) (range : PositionRange) (domain : DriveDomain) : Checked Int :=
  let center : Int := domain.center.toNat
  if 0 < position ∧ 0 < range.max.toInt then do
    add center (← div (← mul position (← sub domain.max.toNat center)) range.max.toInt)
  else if position < 0 ∧ range.min.toInt < 0 then do
    add center (← div (← mul position (← sub center domain.min.toNat)) (← neg range.min.toInt))
  else pure center

/-- The drive signal of a position. -/
def mapToDrive (position : Int32) (range : PositionRange) (domain : DriveDomain) :
    Checked UInt16 := do
  let duty ← driveValue position.toInt range domain
  toUInt16 (← clamp domain.min.toNat domain.max.toNat duty)

/-- One cycle of a cutoff broadcast. -/
def tickCutoff (n : Cutoff) (accepts : Bool) : Checked (Cutoff × Broadcast) := do
  if n.isSending then
    let remaining ← predUInt8 n.remaining
    if accepts then return ({ n with remaining }, .sent)
    else return ({ n with remaining, failedSends := countUp32 n.failedSends }, .refused)
  else return (n, .idle)

/-- The cutoff broadcast of a state after one cycle. -/
def tickState (s : State) (accepts : Bool) : Checked (Option Cutoff × Broadcast) :=
  match s.cutoff with
  | none => pure (none, .idle)
  | some n => do
    let (next, broadcast) ← tickCutoff n accepts
    return (some next, broadcast)

/-- The outputs of a cycle that arrives at state `s`. -/
def finish (c : Calibration) (s : State) (transition : LatchTransition) (override busAccepts : Bool)
    (events : List (Dtc × EventStatus)) (notes : List LogEntry) : Checked Outcome := do
  let wanted := Governor.wantedLines c s
  let duty ← mapToDrive s.position c.range c.output
  let (cutoff, broadcast) ← tickState s busAccepts
  let sends : Bool := broadcast ≠ .idle
  return {
    state := { s with lines := wanted, cutoff }
    report :=
      { position := s.position
        duty
        fault := s.fault
        disableLevel := s.latch.disableLevel
        latch := s.latch.state
        transition
        cutoffActive := s.cutoff.isSome && (sends || s.fault ≠ .noFault)
        overrideActive := override }
    lineWrites := LinePattern.writes s.lines wanted
    events
    sendsCutoff := sends
    notes :=
      if broadcast = .refused then
        notes ++
          [⟨.warning, c.name ++ ": motor cutoff broadcast failed: bus transmit rejected"⟩]
      else notes }

/-! ## Cycles -/

/-- One control cycle. -/
def cycle (c : Calibration) (s : State) (inputs : CycleInputs) (reading : Option Int32)
    (busAccepts : Bool) : Checked Outcome := do
  if inputs.isOverride then
    finish c { s with position := c.safeValue } .none true busAccepts [] []
  else
    let f ← examine c s inputs.command reading
    let (next, transition) ← governedState c s f
    finish c next transition false busAccepts
      (Governor.timeoutEvents c s.timeoutActive next.timeoutActive ++
        Governor.transitionEvents c s.episode transition)
      (Governor.timeoutNotes c s.timeoutActive next.timeoutActive ++
        Governor.transitionNotes c transition)

/-- Runs one control cycle of a governor on its hardware. -/
def update (g : Governor) (inputs : CycleInputs) (rig : Rig) (services : Services) :
    Checked (Logged Update) :=
  match g.active with
  | none => pure (pure ⟨g, rig, services, .error .uninitialized⟩)
  | some ⟨c, s⟩ => do
    let (rig, reading) := Governor.sense c inputs rig
    let outcome ← cycle c s inputs reading (!services.bus.rejects)
    return do
      Logged.all outcome.notes
      pure
        { governor := ⟨some ⟨c, outcome.state⟩⟩
          rig := outcome.onRig rig
          services := outcome.onServices services
          report := .ok outcome.report }

/-- The governed position in signal units. -/
def positionSignal (g : Governor) : Checked (Except GovernorError Int32) :=
  match g.active with
  | none => pure (.error .uninitialized)
  | some a => do return .ok (← divInt32 a.state.position a.calibration.signalScale)

end Machine

end FrontZone
