import FrontZone.Stimulus
/-!
# The schedule of stimuli

Stimuli wait for their cycle in a bounded queue, ordered by cycle and, within a cycle, by
submission. Only so many are handed out per cycle; the rest wait for the next one.
-/

namespace FrontZone

/-- A stimulus with its cycle. -/
structure ScheduledStimulus where
  atCycle : UInt64
  stimulus : Stimulus
  deriving Repr, DecidableEq

/-- What the schedule has done so far. -/
structure ScheduleStats where
  totalScheduled : UInt32 := 0
  totalApplied : UInt32 := 0
  totalDropped : UInt32 := 0
  currentlyScheduled : UInt8 := 0
  deriving Repr, DecidableEq

/-- Why a stimulus is not taken. -/
inductive ScheduleError where
  | queueFull
  | inPast (at_ now : UInt64)
  deriving Repr, DecidableEq

/-- The reason in words. -/
def ScheduleError.message : ScheduleError → String
  | queueFull => "stimulus queue full"
  | inPast at_ now =>
    "cycle " ++ toString at_ ++ " is already in the past (now " ++ toString now ++ ")"

/-- How many stimuli can wait. -/
def maxScheduledStimuli : Nat := 64

/-- How many stimuli are handed out per cycle. -/
def maxDuePerCycle : Nat := 8

/-- The stimuli that wait. -/
structure Schedule where
  /-- Ordered by cycle, then by submission. -/
  pending : List ScheduledStimulus := []
  stats : ScheduleStats := {}
  deriving Repr, DecidableEq

namespace Schedule

/-- Puts a stimulus behind all that are due no later. -/
def insert (s : ScheduledStimulus) : List ScheduledStimulus → List ScheduledStimulus
  | [] => [s]
  | t :: rest => if t.atCycle ≤ s.atCycle then t :: insert s rest else s :: t :: rest

/-- The schedule with other stimuli waiting, and their number brought up to date. -/
def setPending (q : Schedule) (pending : List ScheduledStimulus) : Schedule :=
  { pending, stats := { q.stats with currentlyScheduled := UInt8.ofNat pending.length } }

/-- Takes a stimulus for cycle `atCycle`, if that is not before `now` and there is room. -/
def schedule (q : Schedule) (atCycle : UInt64) (stimulus : Stimulus) (now : UInt64) :
    Schedule × Except ScheduleError Unit :=
  if atCycle < now then (q, .error (.inPast atCycle now))
  else if maxScheduledStimuli ≤ q.pending.length then
    ({ q with stats := { q.stats with totalDropped := q.stats.totalDropped + 1 } },
      .error .queueFull)
  else
    let q := q.setPending (insert ⟨atCycle, stimulus⟩ q.pending)
    ({ q with stats := { q.stats with totalScheduled := q.stats.totalScheduled + 1 } }, .ok ())

/-- Takes the stimuli of a script in order up to the first that is refused. -/
def scheduleAll (start : UInt64) :
    List (UInt64 × Stimulus) → Schedule → Schedule × Except ScheduleError Unit
  | [], q => (q, .ok ())
  | (offset, stimulus) :: rest, q =>
    match q.schedule (start + offset) stimulus start with
    | (q, .ok ()) => scheduleAll start rest q
    | (q, .error e) => (q, .error e)

/-- Takes a whole scenario that starts at a cycle and says how many stimuli it has. -/
def load (q : Schedule) (scenario : Scenario) (start : UInt64) :
    Schedule × Except ScheduleError Nat :=
  let (q, result) := scheduleAll start scenario.stimuli q
  (q, result.map fun _ => scenario.stimuli.length)

/-- `scheduleAll`, which is undefined once the cycle of a stimulus is too large for a word. -/
def scheduleAll? (start : UInt64) :
    List (UInt64 × Stimulus) → Schedule → Option (Schedule × Except ScheduleError Unit)
  | [], q => some (q, .ok ())
  | (offset, stimulus) :: rest, q =>
    if 18446744073709551616 ≤ start.toNat + offset.toNat then none
    else
      match q.schedule (start + offset) stimulus start with
      | (q, .ok ()) => scheduleAll? start rest q
      | (q, .error e) => some (q, .error e)

/-- `load`, which is undefined where `scheduleAll?` is. -/
def load? (q : Schedule) (scenario : Scenario) (start : UInt64) :
    Option (Schedule × Except ScheduleError Nat) :=
  (scheduleAll? start scenario.stimuli q).map fun (q, result) =>
    (q, result.map fun _ => scenario.stimuli.length)

/-- The stimuli to hand out at `now`: those due, oldest first, up to the limit per cycle. -/
def due (q : Schedule) (now : UInt64) : List ScheduledStimulus :=
  (q.pending.takeWhile (·.atCycle ≤ now)).take maxDuePerCycle

/-- Hands out what is due at `now`. -/
def takeDue (q : Schedule) (now : UInt64) : Schedule × List Stimulus :=
  let due := q.due now
  let rest := q.setPending (q.pending.drop due.length)
  ({ rest with
      stats := { rest.stats with totalApplied := q.stats.totalApplied + UInt32.ofNat due.length } },
    due.map (·.stimulus))

/-- Drops all that wait. -/
def clear (q : Schedule) : Schedule :=
  let empty := q.setPending []
  { empty with
    stats :=
      { empty.stats with
        totalDropped := q.stats.totalDropped + UInt32.ofNat q.pending.length } }

end Schedule

end FrontZone
