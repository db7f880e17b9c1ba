import FrontZone.Proofs.Governor.RampCycle
import FrontZone.Proofs.History
import FrontZone.Proofs.Simulation.HeldLoop
import FrontZone.Proofs.Simulation.Run
/-!
# The return ramp in the loop

A stale steering command is answered with a ramp to the middle and is not latched. But the servo
follows the ramp, and its sensor goes on being compared with the command that the ramp has left. So
a command far enough out that is held for long enough is latched after all, as an implausible
sensor. `ramp_unlatched_iff` says exactly when, over all runs in which the driver steers and is
frozen and released at any times: when five ticks on end find sensor and command more than five
degrees apart. It also says how long a driver may be frozen without coming near that.
-/

namespace FrontZone
namespace Simulation

open Governor (State)
open SteeringLoop (Measures servoAt commandAt)
open HeldLoop (Turn Holds Reads)

/-! ## Runs with a driver that freezes -/

/-- Whether an event lets time pass, steers within the range, or freezes or releases the driver. -/
def Event.steers : Event → Bool
  | .tick => true
  | .command c =>
    match c.request with
    | .setSteering deg => -45 ≤ deg ∧ deg ≤ 45
    | .freezeCommands _ => true
    | _ => false

/-- What the steering of a tick goes by, in degrees. -/
structure SteeringSample where
  command : Int32
  measured : Int32
  deriving Repr, DecidableEq

/-- Whether sensor and command are more than five degrees apart. -/
def SteeringSample.apart (x : SteeringSample) : Bool :=
  5 < (x.command.toInt - x.measured.toInt).natAbs

lemma SteeringSample.apart_iff (x : SteeringSample) :
    x.apart ↔ 5 < (x.command.toInt - x.measured.toInt).natAbs := by
  unfold SteeringSample.apart
  rw [decide_eq_true_eq]

/-- What the steering of the next tick goes by. -/
def steeringSample (s : Simulation) : SteeringSample where
  command := s.driver.next.2.steeringDeg
  measured := s.steeringRig.measured

/-- What the steering went by in the ticks of a run, oldest first. -/
def steeringSamples (s : Simulation) (es : List Event) : List SteeringSample :=
  (withPast es).filterMap fun x => if x.2.isTick then some (s.run x.1).steeringSample else none

lemma steeringSamples_concat (s : Simulation) (es : List Event) (e : Event) :
    s.steeringSamples (es ++ [e]) =
      if e.isTick then s.steeringSamples es ++ [(s.run es).steeringSample]
      else s.steeringSamples es := by
  unfold steeringSamples
  rw [filterMap_withPast_concat]
  cases e with
  | tick => rfl
  | command c => exact List.append_nil _

/-! ## The driver -/

/-- A driver in range, whose last command is that of its phase, frozen or not. -/
structure Driven (d : DriverModel) : Prop where
  phase_lt : d.steerCounter.toNat < 4
  toggle_eq : d.toggle = decide (d.steerCounter.toNat % 2 = 1)
  target_mem : -45 ≤ d.steeringTarget.toInt ∧ d.steeringTarget.toInt ≤ 45
  steering_mem : -45 ≤ d.steering.toInt ∧ d.steering.toInt ≤ 45
  last_eq : 10 * d.last.steeringDeg.toInt = commandAt d.steerCounter.toNat d.steering.toInt

section Driver
variable {d : DriverModel}

/-- A driver stays in range, and turns from one phase to the next unless it is frozen. -/
lemma Driven.next (h : Driven d) :
    Driven d.next.1 ∧ Turn d.steerCounter.toNat d.steering.toInt d.next.1.steerCounter.toNat
      d.next.1.steering.toInt := by
  cases hfrozen : d.frozen with
  | true =>
    rw [DriverModel.next_of_frozen hfrozen]
    exact ⟨h, .hold⟩
  | false =>
    obtain ⟨hphase, htoggle, -, -, htarget, -, hdeg, -⟩ :=
      DriverModel.next_of_running hfrozen h.phase_lt
    obtain ⟨hkept, hmove, hmem⟩ := DriverModel.steering_next hfrozen h.phase_lt (by omega)
      (by omega) h.steering_mem h.target_mem
    have hflips := DriverModel.toggle_next hfrozen h.phase_lt h.toggle_eq
    have hlt := h.phase_lt
    refine ⟨⟨by omega, hflips, htarget ▸ h.target_mem, hmem, ?_⟩, ?_⟩
    · rw [DriverModel.last_next, hdeg, ← htoggle, hflips, commandAt]
    · rw [hphase]
      by_cases hlast : d.steerCounter.toNat = 3
      · rw [hlast]
        exact .move hmove.1 hmove.2
      · rw [hkept hlast, Nat.mod_eq_of_lt (by omega)]
        exact .next (by omega)

/-- The command of a cycle, in degrees. -/
lemma Driven.command_eq (h : Driven d) :
    10 * d.next.2.steeringDeg.toInt =
      commandAt d.next.1.steerCounter.toNat d.next.1.steering.toInt := by
  rw [← DriverModel.last_next]
  exact h.next.1.last_eq

/-- The last command is in range. -/
lemma Driven.last_mem (h : Driven d) :
    -45 ≤ d.last.steeringDeg.toInt ∧ d.last.steeringDeg.toInt ≤ 45 := by
  have hmem := nudged_mem (decide (d.steerCounter.toNat % 2 = 1)) (by omega) (by omega)
    h.steering_mem.1 h.steering_mem.2
  have hlast := h.last_eq
  unfold commandAt at hlast
  omega

end Driver

/-! ## Between two events -/

/-- What the steering keeps as long as nothing has latched it: calm surroundings, driver, governor
and servo in range, and monitors that have counted the samples `xs`. -/
structure Rides (s : Simulation) (st : Actuator → State) (actual : Int32)
    (xs : List SteeringSample) : Prop where
  runs : Runs s {} st
  calm : Calm s
  emergencyStop_eq : s.zone.emergencyStop = false
  vehicleState_eq : s.zone.vehicleState = .run
  driven : Driven s.driver
  measures : Measures s.steeringRig actual
  actual_mem : Calibration.steering.range.contains actual
  position_mem : Calibration.steering.range.contains (st .steering).position
  latch_eq : (st .steering).latch.state = .normal
  level_eq : (st .steering).latch.disableLevel = 0
  sample_eq : ∀ x ∈ xs.getLast?, x.command = s.driver.last.steeringDeg
  seen_eq : (st .steering).staleness.lastCommand =
    xs.getLast?.map fun x => Calibration.steering.toInternal x.command
  repeated_eq : (st .steering).staleness.count.toNat = min 65535 (repeats (xs.map (·.command)))
  apart_eq : (st .steering).plausibility.count.toNat = streak SteeringSample.apart xs

section Tick
variable {s : Simulation} {st : Actuator → State} {actual : Int32} {xs : List SteeringSample}

lemma rides_of_ofCalibration (h : ofCalibration {} = .ok s) :
    Rides s (fun a => .initial (({} : ZoneCalibration).actuator a)) 0 [] := by
  obtain ⟨-, hruns, -⟩ := runs_of_ofCalibration h
  obtain ⟨zone, hzone, rfl⟩ := eq_of_ofCalibration h
  obtain ⟨-, rfl⟩ := Zone.ofCalibration_eq_ok_iff.mp hzone
  exact
    { runs := hruns
      calm := ⟨rfl, rfl, rfl⟩
      emergencyStop_eq := rfl
      vehicleState_eq := rfl
      driven := ⟨by decide, rfl, by decide, by decide, rfl⟩
      measures := ⟨rfl, rfl⟩
      actual_mem := rfl
      position_mem := rfl
      latch_eq := rfl
      level_eq := rfl
      sample_eq := nofun
      seen_eq := rfl
      repeated_eq := rfl
      apart_eq := rfl }

/-- Nothing that steers or freezes is an override. -/
lemma Rides.not_isOverride (h : Rides s st actual xs) :
    ¬ (s.zone.call s.call .steering).inputs.isOverride :=
  s.zone.not_isOverride_call s.call _ h.emergencyStop_eq h.vehicleState_eq

lemma Rides.call_measures (h : Rides s st actual xs) :
    Measures (s.zone.call s.call .steering).rig actual := by
  rw [(s.zone.call_eq s.call .steering).2]
  exact h.measures

/-- A sample in internal units. -/
lemma Rides.sample_words (h : Rides s st actual xs) :
    let x := s.steeringSample
    x.measured = (servoAt actual).measured ∧
      (Calibration.steering.toInternal x.command).toInt = 10 * x.command.toInt ∧
      (Calibration.steering.toInternal x.measured).toInt = 10 * x.measured.toInt ∧
      Calibration.steering.range.contains (Calibration.steering.toInternal x.command) := by
  intro x
  have hcommand : -45 ≤ x.command.toInt ∧ x.command.toInt ≤ 45 := by
    have hlast : x.command = s.driver.next.1.last.steeringDeg :=
      congrArg (·.steeringDeg) s.driver.last_next.symm
    rw [hlast]
    exact h.driven.next.1.last_mem
  have hmeasured : x.measured = (servoAt actual).measured := h.measures.measured_eq
  have hnear := SteeringLoop.measured_near actual
  have hactual := PositionRange.contains_iff.mp h.actual_mem
  have hmin : Calibration.steering.range.min.toInt = -450 := rfl
  have hmax : Calibration.steering.range.max.toInt = 450 := rfl
  rw [← hmeasured] at hnear
  have hword : (Calibration.steering.toInternal x.command).toInt = 10 * x.command.toInt :=
    SteeringLoop.toInt_toInternal_steering (by omega)
  exact ⟨hmeasured, hword, SteeringLoop.toInt_toInternal_steering (by omega),
    PositionRange.contains_iff.mpr (by omega)⟩

/-- The plausibility monitor counts the samples that are apart. -/
lemma Rides.checked_eq (h : Rides s st actual xs) (hshort : streak SteeringSample.apart xs < 5) :
    ((st .steering).plausibility.check
        (Calibration.steering.toInternal s.steeringSample.command)
        (Calibration.steering.toInternal s.steeringSample.measured)
        Calibration.steering.plausibilityThreshold).count.toNat =
      streak SteeringSample.apart (xs ++ [s.steeringSample]) := by
  obtain ⟨-, hcommand, hmeasured, -⟩ := h.sample_words
  have hthreshold : Calibration.steering.plausibilityThreshold.toInt.natAbs = 50 := rfl
  have hcount := h.apart_eq
  have hiff := s.steeringSample.apart_iff
  rw [streak_concat]
  unfold Plausibility.check distance
  rw [hthreshold, hcommand, hmeasured]
  by_cases hapart : s.steeringSample.apart
  · have hfar := hiff.mp hapart
    rw [if_pos (show _ > 50 by omega), if_pos hapart, toNat_countUp16, hcount]
    omega
  · have hnear := mt hiff.mpr hapart
    rw [if_neg (show ¬ _ > 50 by omega), if_neg hapart]
    rfl

/-- In range, commands differ in internal units if they differ at all. -/
lemma Rides.seen_iff (h : Rides s st actual xs) :
    (st .steering).staleness.lastCommand =
        some (Calibration.steering.toInternal s.steeringSample.command) ↔
      (xs.map (·.command)).getLast? = some s.steeringSample.command := by
  rw [h.seen_eq, List.getLast?_map]
  cases hlast : xs.getLast? with
  | none => exact iff_of_false nofun nofun
  | some y =>
    have hy := h.sample_eq y hlast
    have hmem := h.driven.last_mem
    have hword : (Calibration.steering.toInternal y.command).toInt = 10 * y.command.toInt :=
      SteeringLoop.toInt_toInternal_steering (by rw [hy]; omega)
    obtain ⟨-, hcommand, -⟩ := h.sample_words
    rw [Option.map_some, Option.map_some, Option.some_inj, Option.some_inj, ← Int32.toInt_inj,
      ← Int32.toInt_inj, hword, hcommand]
    omega

/-- The staleness monitor counts how often the last command was given on end. -/
lemma Rides.observed_eq (h : Rides s st actual xs) :
    ((st .steering).staleness.observe
        (Calibration.steering.toInternal s.steeringSample.command)).count.toNat =
      min 65535 (repeats ((xs ++ [s.steeringSample]).map (·.command))) := by
  have hcount := h.repeated_eq
  rw [List.map_append, List.map_singleton, repeats_concat]
  unfold Staleness.observe
  by_cases hsame : (xs.map (·.command)).getLast? = some s.steeringSample.command
  · rw [if_pos (h.seen_iff.mpr hsame), if_pos hsame, toNat_countUp16, hcount]
    omega
  · rw [if_neg (fun hseen => hsame (h.seen_iff.mp hseen)), if_neg hsame]
    rfl

/-- What the steering governor does in a tick: five samples apart latch it, else it follows the
command or, once that was given ten times on end, the ramp. -/
lemma Rides.outcome (h : Rides s st actual xs) (hshort : streak SteeringSample.apart xs < 5) :
    let o := (s.zone.call s.call .steering).outcome .steering (st .steering)
    (5 ≤ streak SteeringSample.apart (xs ++ [s.steeringSample]) → o.report.latch ≠ .normal) ∧
      (streak SteeringSample.apart (xs ++ [s.steeringSample]) < 5 →
        Governor.Unlatched .steering 3 (st .steering)
          (Calibration.steering.toInternal s.steeringSample.command)
          (Calibration.steering.toInternal s.steeringSample.measured) o) := by
  intro o
  obtain ⟨hmeasured, -, -, hrange⟩ := h.sample_words
  have hchecked := h.checked_eq hshort
  have hreference := (SteeringLoop.referencePosition_of_measures (st .steering) h.not_isOverride
    h.call_measures).1
  rw [← hmeasured] at hreference
  have hcommand : Calibration.steering.toInternal (s.zone.call s.call .steering).inputs.command =
      Calibration.steering.toInternal s.steeringSample.command := by
    rw [(s.zone.call_eq s.call .steering).1]
    rfl
  have hdebounce : Calibration.steering.plausibilityDebounceCycles.toNat = 5 := rfl
  refine ⟨fun hlong => ?_, fun hagreed => ?_⟩
  · rw [Governor.plausibility_outcome h.latch_eq h.not_isOverride hreference hcommand hrange
      (by omega)]
    exact nofun
  · exact Governor.ramp_outcome rfl h.latch_eq h.not_isOverride hreference hcommand hrange
      (by omega)

/-- A command is stale once it was given ten times on end. -/
lemma Rides.isStale_eq (h : Rides s st actual xs) :
    ((st .steering).staleness.observe
        (Calibration.steering.toInternal s.steeringSample.command)).isStale
        Calibration.steering.cmdTimeoutCycles =
      decide (10 ≤ repeats ((xs ++ [s.steeringSample]).map (·.command))) := by
  have hcount := h.observed_eq
  have htimeout : Calibration.steering.cmdTimeoutCycles.toNat = 10 := rfl
  unfold Staleness.isStale
  rw [decide_eq_decide, UInt16.le_iff_toNat_le, hcount, htimeout]
  omega

/-- A tick reports what its steering cycle does. -/
lemma Rides.reports (h : Rides s st actual xs) :
    ∃ report, (s.handle .tick).lastReport = some report ∧
      report.steering =
        some ((s.zone.call s.call .steering).outcome .steering (st .steering)).report := by
  obtain ⟨-, -, -, -, -, -, hlast⟩ := tick_of_calm h.calm
  exact ⟨_, hlast, (perform_of_runs h.runs s.call .steering).2.2⟩

/-- A tick that does not latch moves position and servo through one cycle of the loop. -/
lemma Rides.cycle (h : Rides s st actual xs) (hshort : streak SteeringSample.apart xs < 5)
    (hagreed : streak SteeringSample.apart (xs ++ [s.steeringSample]) < 5) :
    let position' :=
      ((s.zone.call s.call .steering).outcome .steering (st .steering)).state.position
    ∃ actual', Calibration.steering.range.contains position' ∧
      Calibration.steering.range.contains actual' ∧ Measures (s.handle .tick).steeringRig actual' ∧
      HeldLoop.Cycle (10 * s.steeringSample.command.toInt)
        (repeats ((xs ++ [s.steeringSample]).map (·.command))) (st .steering).position.toInt
        actual.toInt position'.toInt actual'.toInt := by
  intro position'
  obtain ⟨-, -, -, -, hrig, -, -⟩ := tick_of_calm h.calm
  obtain ⟨-, hcommand, -, hrange⟩ := h.sample_words
  have ho := (h.outcome hshort).2 hagreed
  have hmove : position' = _ := ho.position_eq
  rw [h.isStale_eq] at hmove
  have hposition : Calibration.steering.range.contains position' := by
    rw [hmove]
    split
    · exact contains_rampToward (by decide) h.position_mem rfl
    · exact contains_rateLimit (by decide) h.position_mem hrange
  have hcycle := HeldLoop.cycle_words actual
    (hmove.trans (if_congr (Iff.of_eq (decide_eq_true_eq)) rfl rfl)) h.position_mem hrange
    h.actual_mem
  rw [hcommand] at hcycle
  refine ⟨_, hposition, ?_, ?_, hcycle⟩
  · exact Servo.contains_advance (s := servoAt actual) (show (-450 : Int) ≤ 450 by omega) _
  -- the servo follows the duty of this cycle
  · have hsensed := (SteeringLoop.referencePosition_of_measures (st .steering) h.not_isOverride
      h.call_measures).2
    have hwritten : (s.zone.perform s.call).steeringRig = _ :=
      (perform_of_runs h.runs s.call .steering).2.1
    have hduty : _ = mapToDrive position' (servoAt actual).range (servoAt actual).output :=
      ho.duty_eq
    rw [hrig, hwritten, ← hduty]
    exact hsensed.advance _

/-- A tick that does not latch takes its sample into the monitors, and moves position and servo
through one cycle of the loop. -/
theorem Rides.tick (h : Rides s st actual xs) (hshort : streak SteeringSample.apart xs < 5)
    (hagreed : streak SteeringSample.apart (xs ++ [s.steeringSample]) < 5) :
    ∃ st' actual', Rides (s.handle .tick) st' actual' (xs ++ [s.steeringSample]) ∧
      HeldLoop.Cycle (10 * s.steeringSample.command.toInt)
        (repeats ((xs ++ [s.steeringSample]).map (·.command))) (st .steering).position.toInt
        actual.toInt (st' .steering).position.toInt actual'.toInt := by
  obtain ⟨hcalm, hcalibration, hdriver, hzone, -, -, -⟩ := tick_of_calm h.calm
  have hperform := perform_of_runs h.runs s.call
  have ho := (h.outcome hshort).2 hagreed
  obtain ⟨actual', hposition, hactual, hservo, hcycle⟩ := h.cycle hshort hagreed
  refine ⟨fun a => ((s.zone.call s.call a).outcome (({} : ZoneCalibration).actuator a)
    (st a)).state, actual', ?_, hcycle⟩
  exact
    { runs := ⟨hcalibration.trans h.runs.calibration_eq, fun a => hzone ▸ (hperform a).1⟩
      calm := hcalm
      emergencyStop_eq := hzone ▸ h.emergencyStop_eq
      vehicleState_eq := hzone ▸ h.vehicleState_eq
      driven := hdriver ▸ h.driven.next.1
      measures := hservo
      actual_mem := hactual
      position_mem := hposition
      latch_eq := (congrArg (·.state) ho.latch_eq).trans h.latch_eq
      level_eq := (congrArg (·.disableLevel) ho.latch_eq).trans h.level_eq
      sample_eq := by
        rw [List.getLast?_concat, hdriver, DriverModel.last_next]
        rintro _ ⟨rfl⟩
        rfl
      seen_eq := by
        refine (congrArg (·.lastCommand) ho.staleness_eq).trans ?_
        rw [Staleness.lastCommand_observe, List.getLast?_concat]
        rfl
      repeated_eq := (congrArg (·.count.toNat) ho.staleness_eq).trans h.observed_eq
      apart_eq := (congrArg (·.count.toNat) ho.plausibility_eq).trans (h.checked_eq hshort) }

/-- A target in range and a driver that freezes or goes on leave the loop as it is. -/
lemma Rides.set_driver (h : Rides s st actual xs) {d : DriverModel} (hd : Driven d)
    (hlast : d.last = s.driver.last) : Rides { s with driver := d } st actual xs :=
  { h with
    runs := ⟨h.runs.calibration_eq, h.runs.active_eq⟩
    calm := ⟨h.calm.active_eq, h.calm.enabled_eq, h.calm.pending_eq⟩
    driven := hd
    sample_eq := fun x hx => (h.sample_eq x hx).trans (congrArg (·.steeringDeg) hlast.symm) }

lemma Rides.command (h : Rides s st actual xs) {c : Command} (hc : (Event.command c).steers) :
    Rides (s.handle (.command c)) st actual xs ∧
      (s.handle (.command c)).driver.steering = s.driver.steering ∧
      (s.handle (.command c)).driver.steerCounter = s.driver.steerCounter := by
  obtain ⟨id, request⟩ := c
  have hdriven := h.driven
  cases request with
  | setSteering deg =>
    obtain ⟨hlow, hhigh⟩ : -45 ≤ deg ∧ deg ≤ 45 := of_decide_eq_true hc
    rw [Int32.le_iff_toInt_le] at hlow hhigh
    exact ⟨h.set_driver ⟨hdriven.phase_lt, hdriven.toggle_eq, ⟨hlow, hhigh⟩, hdriven.steering_mem,
      hdriven.last_eq⟩ rfl, rfl, rfl⟩
  | freezeCommands frozen =>
    exact ⟨h.set_driver ⟨hdriven.phase_lt, hdriven.toggle_eq, hdriven.target_mem,
      hdriven.steering_mem, hdriven.last_eq⟩ rfl, rfl, rfl⟩
  | _ => exact nomatch hc

/-- A command is given once more exactly if phase and driver's value amount to the same one. -/
lemma Rides.held_eq (h : Rides s st actual xs) :
    repeats ((xs ++ [s.steeringSample]).map (·.command)) =
      if commandAt s.driver.next.1.steerCounter.toNat s.driver.next.1.steering.toInt =
          commandAt s.driver.steerCounter.toNat s.driver.steering.toInt then
        repeats (xs.map (·.command)) + 1
      else 1 := by
  have hcommand : 10 * s.steeringSample.command.toInt = _ := h.driven.command_eq
  rw [List.map_append, List.map_singleton, repeats_concat, List.getLast?_map, ← hcommand,
    ← h.driven.last_eq]
  cases hlast : xs.getLast? with
  | none =>
    rw [List.getLast?_eq_none_iff.mp hlast, if_neg nofun]
    exact (ite_self _).symm
  | some y =>
    rw [Option.map_some, h.sample_eq y hlast]
    refine if_congr ?_ rfl rfl
    rw [Option.some_inj, ← Int32.toInt_inj]
    omega

/-- The reading of a sample is apart from its command where it is in the loop. -/
lemma Rides.apart_iff (h : Rides s st actual xs) :
    s.steeringSample.apart ↔
      50 < (commandAt s.driver.next.1.steerCounter.toNat s.driver.next.1.steering.toInt -
        10 * s.steeringSample.measured.toInt).natAbs := by
  have hcommand : 10 * s.steeringSample.command.toInt = _ := h.driven.command_eq
  rw [SteeringSample.apart_iff, ← hcommand]
  omega

/-- A tick keeps the loop where it can be, as long as no command beyond five degrees is given more
than 17 times on end. -/
theorem Rides.tick_holds (h : Rides s st actual xs)
    (hholds : Holds s.driver.steerCounter.toNat s.driver.steering.toInt
      (repeats (xs.map (·.command))) (st .steering).position.toInt actual.toInt)
    (hallowed : streak SteeringSample.apart xs ≤
      HeldLoop.allowance s.driver.steerCounter.toNat (repeats (xs.map (·.command))))
    (hheld : (s.handle .tick).driver.steering.toInt.natAbs ≤ 5 ∨
      repeats ((xs ++ [s.steeringSample]).map (·.command)) ≤ 17) :
    ∃ st' actual', Rides (s.handle .tick) st' actual' (xs ++ [s.steeringSample]) ∧
      Holds (s.handle .tick).driver.steerCounter.toNat (s.handle .tick).driver.steering.toInt
        (repeats ((xs ++ [s.steeringSample]).map (·.command))) (st' .steering).position.toInt
        actual'.toInt ∧
      streak SteeringSample.apart (xs ++ [s.steeringSample]) ≤
        HeldLoop.allowance (s.handle .tick).driver.steerCounter.toNat
          (repeats ((xs ++ [s.steeringSample]).map (·.command))) := by
  obtain ⟨-, -, hdriver, -⟩ := tick_of_calm h.calm
  rw [hdriver] at hheld ⊢
  have hturn := h.driven.next.2
  have hreads : Reads actual.toInt s.steeringSample.measured.toInt := by
    rw [h.sample_words.1]
    exact HeldLoop.reads_measured actual
  have hapart := HeldLoop.allowance_next hturn hholds hreads h.held_eq hheld hallowed
  rw [← if_congr h.apart_iff rfl rfl, ← streak_concat] at hapart
  have hshort := hallowed.trans (HeldLoop.allowance_le _ _)
  have hshort' := hapart.trans (HeldLoop.allowance_le _ _)
  obtain ⟨st', actual', hafter, hcycle⟩ := h.tick (by omega) (by omega)
  rw [show 10 * s.steeringSample.command.toInt = _ from h.driven.command_eq] at hcycle
  exact ⟨st', actual', hafter,
    HeldLoop.holds_next h.driven.phase_lt hturn hholds h.held_eq hheld hcycle, hapart⟩

end Tick

/-! ## Runs -/

section Run
variable {s : Simulation} {es : List Event}

/-- For how many ticks on end, at the end of a run, sensor and command were more than five degrees
apart. -/
def ticksApart (s : Simulation) (es : List Event) : Nat :=
  streak SteeringSample.apart (s.steeringSamples es)

/-- For how many ticks on end, at the end of a run, the command was the same. -/
def ticksHeld (s : Simulation) (es : List Event) : Nat :=
  repeats ((s.steeringSamples es).map (·.command))

/-- As long as sensor and command are not apart for five ticks on end, the steering rides on. -/
theorem rides_run (h : ofCalibration {} = .ok s) (hes : ∀ e ∈ es, e.steers)
    (hapart : ∀ past, past <+: es → s.ticksApart past < 5) :
    ∃ st actual, Rides (s.run es) st actual (s.steeringSamples es) := by
  induction es using List.reverseRecOn with
  | nil => exact ⟨_, _, rides_of_ofCalibration h⟩
  | append_singleton es e ih =>
    obtain ⟨st, actual, hrides⟩ := ih (fun e he => hes e (List.mem_append_left _ he))
      (fun past hpast => hapart past (hpast.trans (List.prefix_append _ _)))
    have hshort := hapart es (List.prefix_append _ _)
    have hnext := hapart (es ++ [e]) (List.prefix_refl _)
    unfold ticksApart at hshort hnext
    rw [steeringSamples_concat] at hnext ⊢
    rw [run_concat]
    cases e with
    | tick =>
      obtain ⟨st', actual', hafter, -⟩ := hrides.tick hshort hnext
      exact ⟨st', actual', hafter⟩
    | command c =>
      exact ⟨st, actual, (hrides.command (hes _ (List.mem_append_right _ List.mem_cons_self))).1⟩

/-- The report on the steering in the tick after `past`. -/
def Reports (s : Simulation) (past : List Event) (r : CycleReport) : Prop :=
  ∃ report, (s.run (past ++ [.tick])).lastReport = some report ∧ report.steering = some r

lemma Reports.unique {past : List Event} {r r' : CycleReport} (h : s.Reports past r)
    (h' : s.Reports past r') : r = r' := by
  obtain ⟨report, hlast, hsteering⟩ := h
  obtain ⟨report', hlast', hsteering'⟩ := h'
  rw [hlast] at hlast'
  obtain rfl := Option.some.inj hlast'
  rw [hsteering] at hsteering'
  exact Option.some.inj hsteering'

/-- If the latch never leaves its normal state, sensor and command are never apart for five ticks
on end. -/
lemma ticksApart_lt_of_open (h : ofCalibration {} = .ok s) (hes : ∀ e ∈ es, e.steers)
    (hopen : ∀ past, past ++ [.tick] <+: es → ∃ r, s.Reports past r ∧ r.latch = .normal) :
    ∀ past, past <+: es → s.ticksApart past < 5 := by
  induction es using List.reverseRecOn with
  | nil =>
    intro past hpast
    rw [List.prefix_nil.mp hpast]
    exact Nat.succ_pos 4
  | append_singleton es e ih =>
    have hbefore := ih (fun e he => hes e (List.mem_append_left _ he))
      (fun past hpast => hopen past (hpast.trans (List.prefix_append _ _)))
    intro past hpast
    rcases List.prefix_concat_iff.mp hpast with rfl | hpast
    · have hshort := hbefore es (List.prefix_refl _)
      unfold ticksApart at hshort ⊢
      rw [steeringSamples_concat]
      cases e with
      | tick =>
        obtain ⟨st, actual, hrides⟩ :=
          rides_run h (fun e he => hes e (List.mem_append_left _ he)) hbefore
        obtain ⟨report, hlast, hsteering⟩ := hrides.reports
        obtain ⟨r, hreports, hnormal⟩ := hopen es (List.prefix_refl _)
        obtain rfl := hreports.unique ⟨report, by rw [run_concat, hlast], hsteering⟩
        exact Nat.not_le.mp fun hlong => (hrides.outcome hshort).1 hlong hnormal
      | command c => exact hshort
    · exact hbefore past hpast

/-- What a tick reports as long as sensor and command are not apart for five ticks on end. -/
lemma reports_of_short (h : ofCalibration {} = .ok s) (hes : ∀ e ∈ es, e.steers)
    (hapart : ∀ past, past <+: es → s.ticksApart past < 5) {past : List Event}
    (hpast : past ++ [.tick] <+: es) :
    ∃ r st, s.Reports past r ∧
      ((s.run past).zone.governor .steering).active = some ⟨.steering, st⟩ ∧
      r.latch = .normal ∧ r.disableLevel = 0 ∧
      if 10 ≤ s.ticksHeld (past ++ [.tick]) then
        r.fault = .cmdTimeout ∧ r.position = rampToward st.position 0 3
      else
        r.fault = .noFault ∧
          r.position = rateLimit st.position
            (Calibration.steering.toInternal (s.run past).steeringSample.command) 0 3 := by
  have hbefore := (List.prefix_append past [.tick]).trans hpast
  obtain ⟨st, actual, hrides⟩ := rides_run h (fun e he => hes e (hbefore.subset he))
    (fun earlier hearlier => hapart earlier (hearlier.trans hbefore))
  have hshort := hapart past hbefore
  have hnext := hapart _ hpast
  unfold ticksApart at hshort hnext
  unfold ticksHeld
  rw [steeringSamples_concat, Event.isTick, if_pos rfl] at hnext ⊢
  obtain ⟨report, hlast, hsteering⟩ := hrides.reports
  have ho := (hrides.outcome hshort).2 hnext
  have hfault := ho.fault_eq
  have hposition := ho.report_position_eq.trans ho.position_eq
  rw [hrides.isStale_eq] at hfault hposition
  refine ⟨_, st .steering, ⟨report, by rw [run_concat, hlast], hsteering⟩,
    hrides.runs.active_eq .steering, ho.report_latch_eq, ho.level_eq.trans hrides.level_eq, ?_⟩
  split
  · next hstale =>
    rw [decide_eq_true hstale] at hfault hposition
    exact ⟨hfault, hposition⟩
  · next hfresh =>
    rw [decide_eq_false hfresh] at hfault hposition
    exact ⟨hfault, hposition⟩

/-- A driver that beyond five degrees gives no command more than 17 times on end keeps the loop
where it can be, and sensor and command are apart for two ticks on end at most. -/
theorem holds_run (h : ofCalibration {} = .ok s) (hes : ∀ e ∈ es, e.steers)
    (hheld : ∀ past, past <+: es →
      (s.run past).driver.steering.toInt.natAbs ≤ 5 ∨ s.ticksHeld past ≤ 17) :
    ∃ st actual, Rides (s.run es) st actual (s.steeringSamples es) ∧
      Holds (s.run es).driver.steerCounter.toNat (s.run es).driver.steering.toInt (s.ticksHeld es)
        (st .steering).position.toInt actual.toInt ∧
      s.ticksApart es ≤
        HeldLoop.allowance (s.run es).driver.steerCounter.toNat (s.ticksHeld es) := by
  induction es using List.reverseRecOn with
  | nil =>
    have hrides := rides_of_ofCalibration h
    obtain ⟨zone, -, rfl⟩ := eq_of_ofCalibration h
    have hrest : HeldLoop.Rests 0 0 0 := ⟨by decide, by decide, by decide, by decide⟩
    exact ⟨_, _, hrides, HeldLoop.holds_zero hrest, le_rfl⟩
  | append_singleton es e ih =>
    obtain ⟨st, actual, hrides, hholds, hallowed⟩ :=
      ih (fun e he => hes e (List.mem_append_left _ he))
        (fun past hpast => hheld past (hpast.trans (List.prefix_append _ _)))
    have hle := hheld (es ++ [e]) (List.prefix_refl _)
    unfold ticksApart ticksHeld at *
    rw [steeringSamples_concat] at hle ⊢
    rw [run_concat] at hle ⊢
    cases e with
    | tick =>
      rw [Event.isTick, if_pos rfl] at hle ⊢
      exact hrides.tick_holds hholds hallowed hle
    | command c =>
      obtain ⟨hafter, hsteering, hphase⟩ :=
        hrides.command (hes _ (List.mem_append_right _ List.mem_cons_self))
      refine ⟨st, actual, hafter, ?_⟩
      rw [hsteering, hphase]
      exact ⟨hholds, hallowed⟩

/-- While the driver steers and is frozen and released at any times, the latch of the steering stays
open at level zero exactly as long as no five ticks on end find sensor and command more than five
degrees apart. Until then a command that was given ten times on end is reported as stale, and the
position goes down the ramp. And a driver whose value is within five degrees or who gives no command
more than 17 times on end is never near that. -/
theorem ramp_unlatched_iff (h : ofCalibration {} = .ok s) (hes : ∀ e ∈ es, e.steers) :
    ((∀ past, past ++ [.tick] <+: es →
        ∃ r, s.Reports past r ∧ r.latch = .normal ∧ r.disableLevel = 0) ↔
      ∀ past, past <+: es → s.ticksApart past < 5) ∧
    ((∀ past, past <+: es → s.ticksApart past < 5) →
      ∀ past, past ++ [.tick] <+: es → ∃ r st, s.Reports past r ∧
        ((s.run past).zone.governor .steering).active = some ⟨.steering, st⟩ ∧
        if 10 ≤ s.ticksHeld (past ++ [.tick]) then
          r.fault = .cmdTimeout ∧ r.position = rampToward st.position 0 3
        else
          r.fault = .noFault ∧
            r.position = rateLimit st.position
              (Calibration.steering.toInternal (s.run past).steeringSample.command) 0 3) ∧
    ((∀ past, past <+: es →
        (s.run past).driver.steering.toInt.natAbs ≤ 5 ∨ s.ticksHeld past ≤ 17) →
      ∀ past, past <+: es → s.ticksApart past ≤ 2) := by
  refine ⟨⟨fun hopen => ?_, fun hapart past hpast => ?_⟩, fun hapart past hpast => ?_,
    fun hheld past hpast => ?_⟩
  · exact ticksApart_lt_of_open h hes fun past hpast =>
      (hopen past hpast).imp fun r hr => ⟨hr.1, hr.2.1⟩
  · obtain ⟨r, st, hreports, -, hnormal, hlevel, -⟩ := reports_of_short h hes hapart hpast
    exact ⟨r, hreports, hnormal, hlevel⟩
  · obtain ⟨r, st, hreports, hbefore, -, -, hmoves⟩ := reports_of_short h hes hapart hpast
    exact ⟨r, st, hreports, hbefore, hmoves⟩
  · obtain ⟨st, actual, -, -, hallowed⟩ := holds_run h (fun e he => hes e (hpast.subset he))
      (fun earlier hearlier => hheld earlier (hearlier.trans hpast))
    exact hallowed.trans (HeldLoop.allowance_le _ _)

/-- A driver frozen at one degree: the tenth tick with the same command reports it as stale, the
position goes down the ramp, and the latch stays open. -/
theorem frozen_at_one_degree_unlatched :
    let frozen : List Event :=
      [.command ⟨1, .setSteering 1⟩] ++ List.replicate 4 .tick ++
        [.command ⟨2, .freezeCommands true⟩] ++ List.replicate 8 .tick
    ∃ (s : Simulation) (r : CycleReport) (st : State), ofCalibration {} = .ok s ∧
      (∀ e ∈ frozen ++ [Event.tick], e.steers) ∧
      (∀ past, past <+: frozen ++ [Event.tick] →
        (s.run past).driver.steering.toInt.natAbs ≤ 5 ∨ s.ticksHeld past ≤ 17) ∧
      10 ≤ s.ticksHeld (frozen ++ [Event.tick]) ∧
      s.Reports frozen r ∧ r.fault = .cmdTimeout ∧ r.position = rampToward st.position 0 3 ∧
      r.latch = .normal ∧ r.disableLevel = 0 := by
  intro frozen
  have hes : ∀ e ∈ frozen ++ [Event.tick], e.steers := by decide +kernel
  obtain ⟨s, hs, hnear, hstale⟩ : ∃ s, ofCalibration {} = .ok s ∧
      (∀ past ∈ (frozen ++ [Event.tick]).inits,
        (s.run past).driver.steering.toInt.natAbs ≤ 5) ∧
      10 ≤ s.ticksHeld (frozen ++ [Event.tick]) :=
    ⟨_, rfl, by decide +kernel, by decide +kernel⟩
  have hheld : ∀ past, past <+: frozen ++ [Event.tick] →
      (s.run past).driver.steering.toInt.natAbs ≤ 5 ∨ s.ticksHeld past ≤ 17 :=
    fun past hpast => Or.inl (hnear past ((List.mem_inits _ _).mpr hpast))
  obtain ⟨hiff, hmoves, hwithin⟩ := ramp_unlatched_iff hs hes
  have hapart : ∀ past, past <+: frozen ++ [Event.tick] → s.ticksApart past < 5 :=
    fun past hpast => Nat.lt_of_le_of_lt (hwithin hheld past hpast) (by omega)
  have hmove := hmoves hapart frozen (List.prefix_refl _)
  simp only [if_pos hstale] at hmove
  obtain ⟨r, st, hreports, -, hfault, hposition⟩ := hmove
  obtain ⟨r', hreports', hopen⟩ := hiff.mpr hapart frozen (List.prefix_refl _)
  obtain rfl := hreports.unique hreports'
  exact ⟨s, r, st, hs, hes, hheld, hstale, hreports, hfault, hposition, hopen⟩

/-- A driver frozen at six degrees, within the range of the steering, latches it: the sensor has
followed the ramp away from the command. -/
theorem frozen_at_six_degrees_latches :
    let es : List Event :=
      [.command ⟨1, .setSteering 6⟩] ++ List.replicate 24 .tick ++
        [.command ⟨2, .freezeCommands true⟩] ++ List.replicate 32 .tick
    ∃ s, ofCalibration {} = .ok s ∧ (∀ e ∈ es, e.steers) ∧
      (s.run es).lastReport.any fun report => report.steering.any fun r =>
        r.latch = .faulted 1 .plausibility ∧ r.disableLevel = 1 := by
  intro es
  exact ⟨_, rfl, by decide +kernel, by decide +kernel⟩

end Run

end Simulation
end FrontZone
