import FrontZone.Calibration
/-!
# Monitors and motion

Two counters watch the inputs of a governor, in internal units and control cycles: one for commands
that do not agree with the reference position, one for commands that no longer change.

Two rules move the governed position: the slew limit, which holds back motion away from the safe
value and lets motion toward it pass, and the ramp, which walks back to the safe value. Both are
computed in exact integers; for a limit that is not negative the results fit a word.
-/

namespace FrontZone

/-- A command if the range admits it, ends included. -/
def PositionRange.accept (r : PositionRange) (command : Int32) : Option Int32 :=
  if r.contains command then some command else none

/-! ## Plausibility -/

/-- For how many samples on end command and reference have disagreed. -/
structure Plausibility where
  count : UInt16 := 0
  deriving Repr, DecidableEq

namespace Plausibility

/-- Takes in one sample; `command` and `reference` disagree if they are more than `threshold`
apart. -/
def check (p : Plausibility) (command reference threshold : Int32) : Plausibility :=
  if distance command reference > threshold.toInt.natAbs then ⟨countUp16 p.count⟩ else ⟨0⟩

/-- Whether the disagreement has lasted for `debounce` samples. -/
def isConfirmed (p : Plausibility) (debounce : UInt16) : Bool :=
  debounce ≤ p.count

end Plausibility

/-! ## Staleness -/

/-- The last command accepted and for how many commands on end it has been the same. -/
structure Staleness where
  lastCommand : Option Int32 := none
  count : UInt16 := 0
  deriving Repr, DecidableEq

namespace Staleness

/-- Takes in an accepted command; the one that brings a new value is the first of its run. -/
def observe (s : Staleness) (command : Int32) : Staleness :=
  if s.lastCommand = some command then { s with count := countUp16 s.count }
  else ⟨some command, 1⟩

/-- Whether the command has been the same for `timeout` commands. -/
def isStale (s : Staleness) (timeout : UInt16) : Bool :=
  timeout ≤ s.count

end Staleness

/-! ## Motion -/

/-- The exact position reached from `position` toward `target` under the slew limit around `safe`:
a target no farther from `safe` is reached at once, any other by at most `limit`. -/
def slewLimited (position target safe limit : Int) : Int :=
  if (target - safe).natAbs ≤ (position - safe).natAbs then target
  else position + clampInt (-limit) limit (target - position)

/-- The position reached from `position` toward `target` under the slew limit around `safe`. -/
def rateLimit (position target safe limit : Int32) : Int32 :=
  Int32.ofInt (slewLimited position.toInt target.toInt safe.toInt limit.toInt)

/-- `rateLimit`, which is undefined where a negative limit would have to bound the motion. -/
def rateLimit? (position target safe limit : Int32) : Option Int32 :=
  if limit < 0 ∧ distance position safe < distance target safe then none
  else some (rateLimit position target safe limit)

/-- One step of the ramp from `position` to `safe`, which it never passes. -/
def rampToward (position safe rate : Int32) : Int32 :=
  if safe < position then max (saturate (position.toInt - rate.toInt)) safe
  else if position < safe then min (saturate (position.toInt + rate.toInt)) safe
  else safe

end FrontZone
