import FrontZone.Log
import FrontZone.SensorFault
/-!
# Fault injection

The injector gives sensor faults to a rig, by hand or at random, for a number of cycles or until
cleared. At most one fault is in force. Random choices come from a linear congruential generator of
fixed seed, so that a simulation can be repeated; only the upper bits of its state are used.
-/

namespace FrontZone

/-! ## Settings and counters -/

/-- How random faults are drawn. -/
structure InjectionSettings where
  enabled : Bool := false
  /-- The chance of a fault in one cycle, in percent. -/
  ratePercent : Float32 := 0.02
  dropoutWeight : UInt8 := 50
  offsetWeight : UInt8 := 35
  stuckWeight : UInt8 := 15
  minDurationCycles : UInt32 := 1
  maxDurationCycles : UInt32 := 200
  offsetDeg : Int32 := 8

/-- What the injector has done so far. -/
structure InjectionStats where
  totalInjected : UInt32 := 0
  dropouts : UInt32 := 0
  offsets : UInt32 := 0
  stuck : UInt32 := 0
  expired : UInt32 := 0
  manualCleared : UInt32 := 0
  deriving Repr, DecidableEq

/-- The counters after one more fault. -/
def InjectionStats.count (s : InjectionStats) (fault : SensorFault) : InjectionStats :=
  let s := { s with totalInjected := s.totalInjected + 1 }
  match fault with
  | .dropout => { s with dropouts := s.dropouts + 1 }
  | .offset _ => { s with offsets := s.offsets + 1 }
  | .stuck => { s with stuck := s.stuck + 1 }

/-! ## Random choices -/

/-- The state of the generator. -/
structure RandomState where
  val : UInt64 := 0x123456789ABCDEF0
  deriving Repr, DecidableEq

namespace RandomState

/-- The next state, by Knuth's multiplier and increment. -/
def next (s : RandomState) : RandomState :=
  ⟨s.val * 6364136223846793005 + 1442695040888963407⟩

/-- The upper 8 bits of a state. -/
def byte (s : RandomState) : UInt8 := (s.val >>> 56).toUInt8

/-- The upper 32 bits of a state. -/
def word (s : RandomState) : UInt32 := (s.val >>> 32).toUInt32

/-- The upper 32 bits as a share of the largest such number. -/
def share (s : RandomState) : Float32 := s.word.toFloat32 / (4294967295 : UInt32).toFloat32

end RandomState

namespace InjectionSettings

/-- Whether a state of the generator calls for a fault. -/
def strikes (c : InjectionSettings) (r : RandomState) : Bool :=
  r.share < c.ratePercent / 100

/-- The sum of the weights of all kinds of fault. -/
def totalWeight (c : InjectionSettings) : Nat :=
  c.dropoutWeight.toNat + c.offsetWeight.toNat + c.stuckWeight.toNat

/-- Whether any kind of fault can be picked. -/
def hasWeight (c : InjectionSettings) : Bool :=
  c.totalWeight ≠ 0

/-- The kind of fault that a random byte picks by weight. -/
def pick (c : InjectionSettings) (byte : UInt8) : SensorFault :=
  let point := byte.toNat * c.totalWeight / 256
  if point < c.dropoutWeight.toNat then .dropout
  else if point < c.dropoutWeight.toNat + c.offsetWeight.toNat then .offset c.offsetDeg
  else .stuck

/-- Whether durations vary at all. -/
def durationVaries (c : InjectionSettings) : Bool :=
  c.minDurationCycles < c.maxDurationCycles

/-- The duration that a random word picks, at least one cycle; the longest is left out. -/
def duration (c : InjectionSettings) (word : UInt32) : UInt32 :=
  if c.durationVaries then
    max (c.minDurationCycles + word % (c.maxDurationCycles - c.minDurationCycles)) 1
  else max c.minDurationCycles 1

end InjectionSettings

/-! ## The injector -/

/-- The injector of one rig. -/
structure Injector where
  settings : InjectionSettings := {}
  active : Option ActiveSensorFault := none
  stats : InjectionStats := {}
  cycleCount : UInt64 := 0
  random : RandomState := {}

/-- A duration in words. -/
def durationText : Option UInt32 → String
  | some cycles => "Some(" ++ toString cycles ++ ")"
  | none => "None"

namespace Injector

/-- Whether random faults are drawn. -/
def setEnabled (i : Injector) (enabled : Bool) : Injector :=
  { i with settings := { i.settings with enabled } }

/-- Gives the rig a fault now, in place of any other. The cycle in which this happens counts as the
first of the duration; without a duration the fault stays. -/
def inject (i : Injector) (fault : SensorFault) (duration : Option UInt32) (rig : Rig) :
    Logged (Injector × Rig) := do
  Logged.entry .info
    ("injected sensor fault " ++ fault.description ++ " for " ++ durationText duration ++ " cycles")
  pure
    ({ i with
        active := some
          { fault
            remainingCycles := duration.map fun d => if d = 0 then 0 else d - 1
            injectedAtCycle := i.cycleCount }
        stats := i.stats.count fault },
      rig.suffer fault)

/-- Takes the fault from the rig. -/
def clear (i : Injector) (rig : Rig) : Injector × Rig :=
  ({ i with
      active := none
      stats :=
        if i.active.isSome then { i.stats with manualCleared := i.stats.manualCleared + 1 }
        else i.stats },
    rig.clearFaults)

/-- The random draw of one cycle: the fault and its duration, if there is to be one, and the state
of the generator afterwards. A choice that is already determined takes no random number. -/
def draw (c : InjectionSettings) (r : RandomState) :
    Option (SensorFault × UInt32) × RandomState :=
  let r := r.next
  if c.strikes r && c.hasWeight then
    let r := r.next
    let fault := c.pick r.byte
    if c.durationVaries then (some (fault, c.duration r.next.word), r.next)
    else (some (fault, c.duration 0), r)
  else (none, r)

/-- Ages the fault in force by one cycle: the rig loses it once no cycles remain. -/
def age (i : Injector) (active : ActiveSensorFault) (rig : Rig) : Logged (Injector × Rig) :=
  match active.remainingCycles with
  | none => pure (i, rig)
  | some remaining =>
    if remaining = 0 then do
      Logged.entry .info ("injected sensor fault expired at cycle " ++ toString i.cycleCount)
      pure
        ({ i with active := none, stats := { i.stats with expired := i.stats.expired + 1 } },
          rig.clearFaults)
    else
      pure ({ i with active := some { active with remainingCycles := some (remaining - 1) } }, rig)

/-- Opens a control cycle: ages the fault in force, or else draws a new one if enabled. -/
def update (i : Injector) (rig : Rig) : Logged (Injector × Rig) :=
  let i := { i with cycleCount := i.cycleCount + 1 }
  match i.active with
  | some active => i.age active rig
  | none =>
    if i.settings.enabled then
      let (drawn, random) := draw i.settings i.random
      let i := { i with random }
      match drawn with
      | some (fault, duration) => i.inject fault (some duration) rig
      | none => pure (i, rig)
    else pure (i, rig)

end Injector

end FrontZone
