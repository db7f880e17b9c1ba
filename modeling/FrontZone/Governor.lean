import FrontZone.Calibration.Validity
import FrontZone.Cutoff
import FrontZone.Drive
import FrontZone.Latch
import FrontZone.Monitor
/-!
# The governor of one actuator

A governor is either not initialised or holds a valid calibration and the state that builds up from
cycle to cycle. This module has its data: the state, the inputs of a cycle and the report of a
cycle; `FrontZone.Governor.Cycle` says what a cycle does and `FrontZone.Governor.Update` runs it on
the hardware.
-/

namespace FrontZone

/-- What a governor is told from outside in one cycle. -/
structure CycleInputs where
  /-- In signal units. -/
  command : Int32
  emergencyStop : Bool := false
  vehicleState : VehicleState := .run
  deriving Repr, DecidableEq

/-- Whether the inputs force the safe value regardless of the command. -/
def CycleInputs.isOverride (i : CycleInputs) : Bool :=
  i.emergencyStop || i.vehicleState.demandsSafeOutput

/-- What can be seen of one cycle. -/
structure CycleReport where
  /-- In internal units. -/
  position : Int32
  duty : UInt16
  fault : FaultCode
  disableLevel : UInt8
  latch : LatchState
  transition : LatchTransition
  /-- A cutoff frame was due or a fault is present, where the actuator has a cutoff broadcast. -/
  cutoffActive : Bool
  overrideActive : Bool
  deriving Repr, DecidableEq

namespace Governor

/-- What a governor remembers between cycles. -/
structure State where
  position : Int32
  plausibility : Plausibility := {}
  staleness : Staleness := {}
  latch : Latch
  /-- A stale command is being reported without being latched. -/
  timeoutActive : Bool := false
  /-- The disable lines as last written. -/
  lines : LinePattern := .released
  /-- The kinds of fault met in the current episode. -/
  episode : List FaultCode := []
  cutoff : Option Cutoff := none
  deriving Repr, DecidableEq

namespace State

/-- The state right after initialisation. -/
def initial (c : Calibration) : State where
  position := c.initialPosition
  latch := { clearCycles := c.latchClearCycles }
  cutoff :=
    match c.escalation with
    | .cutoffBroadcast count => some { repeatCount := count }
    | .disableLines => none

/-- The fault to report: the one latched, else a stale command that does not latch, else none. -/
def fault (s : State) : FaultCode :=
  if s.latch.isEngaged then s.latch.fault
  else if s.timeoutActive then .cmdTimeout
  else .noFault

/-- The cutoff frames still due. -/
def cutoffRemaining (s : State) : UInt8 :=
  (s.cutoff.map (·.remaining)).getD 0

end State

/-- A calibration with the state of the governor that runs it. -/
structure Active where
  calibration : Calibration
  state : State
  deriving Repr, DecidableEq

end Governor

/-- A governor, which does nothing until it is initialised. -/
structure Governor where
  active : Option Governor.Active := none
  deriving Repr, DecidableEq

/-- Why a governor cannot answer. -/
inductive GovernorError where
  | uninitialized
  deriving Repr, DecidableEq

/-- The reason in words. -/
def GovernorError.message : GovernorError → String
  | uninitialized => "governor is not initialised"

namespace Governor

/-- A governor initialised from a calibration, or left uninitialised without one. -/
def init (calibration : Option Calibration) : Except CalibrationError Governor :=
  match calibration with
  | none => .ok {}
  | some c =>
    match c.validate with
    | .error e => .error e
    | .ok () => .ok { active := some ⟨c, .initial c⟩ }

/-- Starts a governor over, which forgets everything; a refused calibration leaves it as it is. -/
def reinit (g : Governor) (calibration : Option Calibration) :
    Governor × Except CalibrationError Unit :=
  match init calibration with
  | .ok fresh => (fresh, .ok ())
  | .error e => (g, .error e)

/-- Whether the governor runs. -/
def isInitialized (g : Governor) : Bool :=
  g.active.isSome

/-- The governed position in signal units. -/
def positionSignal (g : Governor) : Except GovernorError Int32 :=
  match g.active with
  | none => .error .uninitialized
  | some a => .ok (a.calibration.toSignal a.state.position)

end Governor

end FrontZone
