import FrontZone.Calibration
import FrontZone.Fault
/-!
# The fault latch

A latch holds a confirmed fault until the condition has been absent for a calibrated number of
cycles on end. Each new episode, that is each fault that finds the latch open, raises the disable
level by one up to the largest; the level never falls again.
-/

namespace FrontZone

/-- Where a latch stands. -/
inductive LatchState where
  | normal
  | faulted (level : UInt8) (fault : FaultCode)
  /-- The condition is gone and `count` cycles have passed without it. -/
  | clearing (level : UInt8) (fault : FaultCode) (count : UInt16)
  deriving Repr, DecidableEq

/-- What happened to a latch in one cycle. -/
inductive LatchTransition where
  | none
  /-- A new episode. -/
  | confirmed (level : UInt8) (fault : FaultCode)
  /-- Another kind of fault while faulted. -/
  | reconfirmed (fault : FaultCode)
  /-- The condition came back while clearing; the level stays. -/
  | relapsed (fault : FaultCode)
  /-- The latch opened. -/
  | cleared (fault : FaultCode)
  deriving Repr, DecidableEq

/-- Whether a transition starts the motor-cutoff sequence. -/
def LatchTransition.arms : LatchTransition → Bool
  | confirmed .. => true
  | relapsed _ => true
  | _ => false

/-- A fault latch. -/
structure Latch where
  clearCycles : UInt16
  state : LatchState := .normal
  /-- The level of the newest episode, zero before the first. -/
  disableLevel : UInt8 := 0
  deriving Repr, DecidableEq

namespace Latch

/-- The state and transition after `count` cycles without the condition. -/
def countClear (clearCycles : UInt16) (level : UInt8) (fault : FaultCode) (count : UInt16) :
    LatchState × LatchTransition :=
  if clearCycles ≤ count then (.normal, .cleared fault)
  else (.clearing level fault count, .none)

/-- The level of an episode that begins after one of level `level`. -/
def nextLevel (level : UInt8) : UInt8 :=
  min (level + 1) maxDisableLevel

/-- One cycle with the fault condition of that cycle, if any. -/
def step (l : Latch) (condition : Option FaultCode) : Latch × LatchTransition :=
  match l.state, condition with
  | .normal, none => (l, .none)
  | .normal, some fault =>
    let level := nextLevel l.disableLevel
    ({ l with state := .faulted level fault, disableLevel := level }, .confirmed level fault)
  | .faulted level fault, some new =>
    ({ l with state := .faulted level new }, if new = fault then .none else .reconfirmed new)
  | .faulted level fault, none =>
    let next := countClear l.clearCycles level fault 1
    ({ l with state := next.1 }, next.2)
  | .clearing level _ _, some fault =>
    ({ l with state := .faulted level fault }, .relapsed fault)
  | .clearing level fault count, none =>
    let next := countClear l.clearCycles level fault (countUp16 count)
    ({ l with state := next.1 }, next.2)

/-- Whether the latch holds a fault. -/
def isEngaged (l : Latch) : Bool :=
  l.state ≠ .normal

/-- The fault held, or that there is none. -/
def fault (l : Latch) : FaultCode :=
  match l.state with
  | .normal => .noFault
  | .faulted _ fault => fault
  | .clearing _ fault _ => fault

/-- The level of the current episode, zero when open. -/
def activeLevel (l : Latch) : UInt8 :=
  match l.state with
  | .normal => 0
  | .faulted level _ => level
  | .clearing level _ _ => level

/-- For how many cycles the condition has been gone while the latch still holds. -/
def clearCount (l : Latch) : UInt16 :=
  match l.state with
  | .clearing _ _ count => count
  | _ => 0

end Latch

end FrontZone
