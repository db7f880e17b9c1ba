import FrontZone.Proofs.History
import FrontZone.Proofs.Simulation.Run
import FrontZone.Proofs.Simulation.SteeringLoop
/-!
# Nominal runs

In a nominal run the driver steers and brakes within the ranges of the actuators, nothing else is
set, and testers look at the trouble codes and clear them. The default calibrations are such that
nothing is found wrong then, except that a brake that is set before every tick may jump up and down
for too long: the monitor of the brake takes three jumps on end for a fault.

`Flows` is what holds between two events of such a run. A tick takes the steering from one phase of
its loop to the next and gives the brake a command that is new or one unit from the last one.
-/

namespace FrontZone

/-! ## Clean reports -/

/-- No fault, an open latch, and never an episode. -/
def CycleReport.Clean (r : CycleReport) : Prop :=
  r.fault = .noFault ∧ r.latch = .normal ∧ r.disableLevel = 0

/-- No fault bit, and a clean report of each actuator. -/
def ZoneReport.Clean (r : ZoneReport) : Prop :=
  r.faultMask = 0 ∧ ∀ a, ∃ report, r.actuator a = some report ∧ report.Clean

/-- A cycle without a fault reports so. -/
lemma Governor.Undisturbed.clean {c : Calibration} {st : Governor.State} {command reference : Int32}
    {o : Governor.Outcome} (h : Governor.Undisturbed c st command reference o) : o.report.Clean :=
  ⟨h.fault_eq, h.latch_eq, h.level_eq⟩

/-- With nothing reported from outside, the report of a zone is clean if those of its actuators
are. -/
lemma Zone.report_clean {z : Zone} {k : Zone.Call} (hexternal : z.externalFaults = 0)
    (h : ∀ a, ∃ report, (z.perform k).report.actuator a = some report ∧ report.Clean) :
    (z.perform k).report.Clean := by
  have hbit (a : Actuator) : faultBitOf a ((z.perform k).report.actuator a) = 0 := by
    obtain ⟨report, hreport, hclean⟩ := h a
    rw [hreport, faultBitOf, if_pos]
    exact decide_eq_true hclean.1
  refine ⟨?_, h⟩
  show z.externalFaults ||| faultBitOf .steering ((z.perform k).report.actuator .steering) |||
    faultBitOf .brake ((z.perform k).report.actuator .brake) = 0
  rw [hbit, hbit, hexternal]
  rfl

namespace Simulation

open Governor (State Undisturbed)
open SteeringLoop (Follows Measures)

/-! ## The brake -/

section Brake
variable {st : State} {k : Governor.Call} {toggle braked : Bool} {value : Int} {held held' : Nat}

/-- Between two cycles the brake governor is quiet. Unless the brake was set since, its reference is
the driver's value as commanded last; the monitors have counted no more than `held` cycles before
which the brake was set, and one. -/
structure BrakeHolds (toggle : Bool) (value : Int) (braked : Bool) (held : Nat) (st : State) :
    Prop where
  quiet : st.Quiet
  reference_eq : braked = false →
    (st.staleness.lastCommand.getD st.position).toInt = nudged toggle value
  disagreed_le : st.plausibility.count.toNat ≤ held
  repeated_le : st.staleness.count.toNat ≤ held + 1

lemma brakeHolds_initial : BrakeHolds false 0 false 0 (State.initial .brake) :=
  ⟨Governor.quiet_initial _, fun _ => rfl, le_rfl, Nat.zero_le _⟩

lemma toInt_toInternal_brake (signal : Int32) :
    (Calibration.brake.toInternal signal).toInt = signal.toInt := by
  have hscale : Calibration.brake.signalScale.toInt = 1 := rfl
  unfold Calibration.toInternal
  rw [hscale, Int.mul_one, saturate_toInt]

/-- A brake that was not set since moves by the nudge alone. -/
lemma distance_of_not_braked (h : BrakeHolds toggle value false held st) {command : Int32}
    (hcommand : command.toInt = nudged (!toggle) value) :
    distance command (st.staleness.lastCommand.getD st.position) = 1 := by
  have hone := distance_nudged (!toggle) value
  rw [Bool.not_not] at hone
  unfold distance
  rw [hcommand, h.reference_eq rfl]
  exact hone

/-- The monitors count one cycle more for a brake that was set, and start over for one that was
not. -/
lemma brake_counts (h : BrakeHolds toggle value braked held st) {command : Int32}
    (hcommand : command.toInt = nudged (!toggle) value)
    (hheld : held' = if braked then held + 1 else 0) :
    (st.plausibility.check command (st.staleness.lastCommand.getD st.position)
        Calibration.brake.plausibilityThreshold).count.toNat ≤ held' ∧
      (st.staleness.observe command).count.toNat ≤ held' + 1 := by
  cases braked with
  | true =>
    rw [if_pos rfl] at hheld
    have hdisagreed := h.disagreed_le
    have hrepeated := h.repeated_le
    have hchecked := st.plausibility.count_check_le command
      (st.staleness.lastCommand.getD st.position) Calibration.brake.plausibilityThreshold
    have hobserved := st.staleness.count_observe_le command
    exact ⟨by omega, by omega⟩
  | false =>
    have hone := distance_of_not_braked h hcommand
    refine ⟨?_, ?_⟩
    · have hthreshold : Calibration.brake.plausibilityThreshold.toInt.natAbs = 2 := rfl
      rw [Plausibility.check_of_near _ (by rw [hone, hthreshold]; omega)]
      exact Nat.zero_le _
    · rw [Staleness.observe_of_ne]
      · exact Nat.le_add_left 1 _
      · intro hsame
        rw [hsame, Option.getD_some, distance, Int.sub_self] at hone
        exact absurd hone (by decide)

/-- A cycle of the brake governor is without a fault as long as the brake was set before two ticks
on end at most. -/
theorem brake_next (h : BrakeHolds toggle value braked held st) (hvalue : 0 ≤ value ∧ value ≤ 100)
    (ho : ¬ k.inputs.isOverride) (hcommand : k.inputs.command.toInt = nudged (!toggle) value)
    (hheld : held' = if braked then held + 1 else 0) (hle : held' ≤ 2) :
    let o := k.outcome .brake st
    ∃ command reference, Undisturbed .brake st command reference o ∧
      BrakeHolds (!toggle) value false held' o.state := by
  intro o
  have hmem := nudged_mem (!toggle) le_rfl (by omega) hvalue.1 hvalue.2
  have hword : (Calibration.brake.toInternal k.inputs.command).toInt = nudged (!toggle) value := by
    rw [toInt_toInternal_brake, hcommand]
  generalize hcw : Calibration.brake.toInternal k.inputs.command = command at hword
  obtain ⟨hdisagreed, hrepeated⟩ := brake_counts h hword hheld
  have hrange : Calibration.brake.range.contains command := by
    have hmin : Calibration.brake.range.min.toInt = 0 := rfl
    have hmax : Calibration.brake.range.max.toInt = 100 := rfl
    rw [PositionRange.contains_iff, hmin, hmax, hword]
    exact hmem
  -- the reference is the last command, or the position before the first one
  have hundisturbed : Undisturbed .brake st command (st.staleness.lastCommand.getD st.position)
      o := by
    have hdebounce : Calibration.brake.plausibilityDebounceCycles.toNat = 3 := rfl
    have htimeout : Calibration.brake.cmdTimeoutCycles.toNat = 10 := rfl
    exact Governor.quiet_outcome h.quiet ho rfl hcw hrange (by omega) (by omega)
  refine ⟨command, _, hundisturbed, hundisturbed.quiet, fun _ => ?_, ?_, ?_⟩
  · rw [hundisturbed.staleness_eq, Staleness.lastCommand_observe, Option.getD_some]
    exact hword
  · rw [hundisturbed.plausibility_eq]
    exact hdisagreed
  · rw [hundisturbed.staleness_eq]
    exact hrepeated

end Brake

/-! ## Nominal events -/

/-- A tick, a target in the range of its actuator, or a command that sets nothing. -/
def Event.Nominal : Event → Prop
  | .tick => True
  | .command c =>
    match c.request with
    | .setSteering deg => -45 ≤ deg ∧ deg ≤ 45
    | .setBrake pct => 0 ≤ pct ∧ pct ≤ 100
    | .ping => True
    | .status => True
    | .getDtcs => True
    | .clearDtcs => True
    | _ => False

instance : DecidablePred Event.Nominal
  | .tick => inferInstanceAs (Decidable True)
  | .command ⟨_, request⟩ => by
    cases request <;> unfold Event.Nominal <;> infer_instance

/-- Whether an event sets the brake. -/
def Event.setsBrake : Event → Bool
  | .command ⟨_, .setBrake _⟩ => true
  | _ => false

/-- Whether the brake has been set since the last tick. -/
def brakedSince (es : List Event) : Bool :=
  (es.rtakeWhile fun e => !e.isTick).any (·.setsBrake)

/-- For each tick of a run, whether the brake was set between the tick before and this one. -/
def brakedTicks (es : List Event) : List Bool :=
  (withPast es).filterMap fun x => if x.2.isTick then some (brakedSince x.1) else none

lemma brakedSince_concat (es : List Event) (e : Event) :
    brakedSince (es ++ [e]) = (!e.isTick && (brakedSince es || e.setsBrake)) := by
  unfold brakedSince
  rw [List.rtakeWhile_concat]
  cases e with
  | tick => rfl
  | command c => simp [Event.isTick]

lemma brakedTicks_concat (es : List Event) (e : Event) :
    brakedTicks (es ++ [e]) =
      if e.isTick then brakedTicks es ++ [brakedSince es] else brakedTicks es := by
  unfold brakedTicks
  rw [filterMap_withPast_concat]
  cases e with
  | tick => rfl
  | command c => exact List.append_nil _

/-- What is known of the ticks of a run stays known. -/
lemma brakedTicks_isPrefix {past es : List Event} (h : past <+: es) :
    brakedTicks past <+: brakedTicks es := by
  obtain ⟨later, rfl⟩ := h
  induction later using List.reverseRecOn with
  | nil => rw [List.append_nil]
  | append_singleton later e ih =>
    rw [← List.append_assoc, brakedTicks_concat]
    split
    · exact ih.trans (List.prefix_append _ _)
    · exact ih

/-- A run without three ticks on end of one kind has no longer streak of it. -/
lemma streak_le_two {xs : List Bool} (h : ¬ [true, true, true] <:+: xs) : streak id xs ≤ 2 := by
  by_contra hlong
  have hall : xs.rtakeWhile id = List.replicate (streak id xs) true :=
    List.eq_replicate_of_mem fun x hx => List.mem_rtakeWhile_imp hx
  refine h (List.IsInfix.trans ?_ (List.rtakeWhile_suffix id xs).isInfix)
  rw [hall]
  obtain ⟨n, hn⟩ := Nat.exists_eq_add_of_le (show 3 ≤ streak id xs by omega)
  rw [hn, List.replicate_add]
  exact (List.prefix_append (List.replicate 3 true) _).isInfix

/-! ## What holds between two events -/

/-- What a nominal run keeps: calm surroundings, nothing set from outside, targets in range, and
both governors in their loops with driver and hardware. -/
structure Flows (s : Simulation) (st : Actuator → State) (actual : Int32) (braked : Bool)
    (held : Nat) : Prop where
  runs : Runs s {} st
  calm : Calm s
  emergencyStop_eq : s.zone.emergencyStop = false
  vehicleState_eq : s.zone.vehicleState = .run
  externalFaults_eq : s.zone.externalFaults = 0
  events_eq : s.services.events = {}
  frozen_eq : s.driver.frozen = false
  phase_lt : s.driver.steerCounter.toNat < 4
  toggle_eq : s.driver.toggle = decide (s.driver.steerCounter.toNat % 2 = 1)
  target_mem : -45 ≤ s.driver.steeringTarget.toInt ∧ s.driver.steeringTarget.toInt ≤ 45
  steering_mem : -45 ≤ s.driver.steering.toInt ∧ s.driver.steering.toInt ≤ 45
  brake_mem : 0 ≤ s.driver.brake.toInt ∧ s.driver.brake.toInt ≤ 100
  measures : Measures s.steeringRig actual
  steering : Follows s.driver.steerCounter.toNat s.driver.steering.toInt (st .steering) actual
  brake : BrakeHolds s.driver.toggle s.driver.brake.toInt braked held (st .brake)

variable {s : Simulation} {st : Actuator → State} {actual : Int32} {braked : Bool} {held : Nat}

lemma flows_of_ofCalibration (h : ofCalibration {} = .ok s) :
    Flows s (fun a => .initial (({} : ZoneCalibration).actuator a)) 0 false 0 := by
  obtain ⟨-, hruns, -⟩ := runs_of_ofCalibration h
  obtain ⟨zone, hzone, rfl⟩ := eq_of_ofCalibration h
  obtain ⟨-, rfl⟩ := Zone.ofCalibration_eq_ok_iff.mp hzone
  have hnear : SteeringLoop.Near 0 0 0 0 := SteeringLoop.near_zero ⟨rfl, rfl⟩
  exact
    { runs := hruns
      calm := ⟨rfl, rfl, rfl⟩
      emergencyStop_eq := rfl
      vehicleState_eq := rfl
      externalFaults_eq := rfl
      events_eq := rfl
      frozen_eq := rfl
      phase_lt := by decide
      toggle_eq := rfl
      target_mem := by decide
      steering_mem := by decide
      brake_mem := by decide
      measures := ⟨rfl, rfl⟩
      steering := ⟨Governor.quiet_initial _, hnear, nofun, Nat.zero_le _⟩
      brake := brakeHolds_initial }

/-- The driver's next phase, and its steering value one degree on at most. -/
lemma driver_next (h : Flows s st actual braked held) :
    let n := s.driver.steerCounter.toNat
    let d := s.driver.next.1
    d.steerCounter.toNat = (n + 1) % 4 ∧ d.toggle = decide ((n + 1) % 4 % 2 = 1) ∧
      (n ≠ 3 → d.steering.toInt = s.driver.steering.toInt) ∧
      (s.driver.steering.toInt - 1 ≤ d.steering.toInt ∧
        d.steering.toInt ≤ s.driver.steering.toInt + 1) ∧
      -45 ≤ d.steering.toInt ∧ d.steering.toInt ≤ 45 := by
  intro n d
  obtain ⟨hphase, -⟩ := DriverModel.next_of_running h.frozen_eq h.phase_lt
  refine ⟨hphase, ?_, DriverModel.steering_next h.frozen_eq h.phase_lt (by omega) (by omega)
    h.steering_mem h.target_mem⟩
  rw [← hphase]
  exact DriverModel.toggle_next h.frozen_eq h.phase_lt h.toggle_eq

/-- No cycle of a nominal run is an override. -/
lemma Flows.not_isOverride (h : Flows s st actual braked held) (a : Actuator) :
    ¬ (s.zone.call s.call a).inputs.isOverride :=
  s.zone.not_isOverride_call s.call _ h.emergencyStop_eq h.vehicleState_eq

/-- The tick of a nominal run finds nothing wrong. -/
theorem flows_tick {held' : Nat} (h : Flows s st actual braked held)
    (hheld : held' = if braked then held + 1 else 0) (hle : held' ≤ 2) :
    (∃ st' actual', Flows (s.handle .tick) st' actual' false held') ∧
      ∃ report, (s.handle .tick).lastReport = some report ∧ report.Clean := by
  obtain ⟨hcalm, hcalibration, hdriver, hzone, hrig, hservices, hlast⟩ := tick_of_calm h.calm
  obtain ⟨-, hflips, -, hfrozen, htarget, hbrake, hsteeringDeg, hbrakePct⟩ :=
    DriverModel.next_of_running h.frozen_eq h.phase_lt
  obtain ⟨hphase, htoggle, hkept, hstep, hdeg⟩ := driver_next h
  have hinputs (a : Actuator) := (s.zone.call_eq s.call a).1
  -- both governors follow their commands
  obtain ⟨_, _, actual', hfollows, hsteering, hmeasures⟩ :=
    SteeringLoop.follows_next (k := s.zone.call s.call .steering) h.steering h.phase_lt hkept hstep
      h.steering_mem hdeg (h.not_isOverride .steering)
      ((s.zone.call_eq s.call .steering).2 ▸ h.measures)
      (by rw [hinputs, ← htoggle, hflips]; exact hsteeringDeg)
  obtain ⟨_, _, hholds, hbraking⟩ :=
    brake_next (k := s.zone.call s.call .brake) h.brake h.brake_mem (h.not_isOverride .brake)
      (by rw [hinputs]; exact hbrakePct) hheld hle
  have hperform := perform_of_runs h.runs s.call
  have hclean (a : Actuator) :
      ((s.zone.call s.call a).outcome (({} : ZoneCalibration).actuator a) (st a)).report.Clean := by
    cases a with
    | steering => exact hfollows.clean
    | brake => exact hholds.clean
  -- so that neither has an event for the store
  have hevents : (s.handle .tick).services.events = {} := by
    rw [hservices, events_of_runs h.runs s.call hfollows.events_eq hholds.events_eq]
    exact h.events_eq
  have hservo : Measures (s.handle .tick).steeringRig actual' := by
    have hwritten : (s.zone.perform s.call).steeringRig = _ := (hperform .steering).2.1
    rw [hrig, hwritten]
    exact hmeasures
  refine ⟨⟨fun a => ((s.zone.call s.call a).outcome (({} : ZoneCalibration).actuator a)
    (st a)).state, actual', ?_⟩, _, hlast,
    Zone.report_clean h.externalFaults_eq fun a => ⟨_, (hperform a).2.2, hclean a⟩⟩
  exact
    { runs := ⟨hcalibration.trans h.runs.calibration_eq, fun a => hzone ▸ (hperform a).1⟩
      calm := hcalm
      emergencyStop_eq := hzone ▸ h.emergencyStop_eq
      vehicleState_eq := hzone ▸ h.vehicleState_eq
      externalFaults_eq := hzone ▸ h.externalFaults_eq
      events_eq := hevents
      frozen_eq := hdriver ▸ hfrozen
      phase_lt := by rw [hdriver, hphase]; omega
      toggle_eq := by rw [hdriver, hphase]; exact htoggle
      target_mem := by rw [hdriver, htarget]; exact h.target_mem
      steering_mem := by rw [hdriver]; exact hdeg
      brake_mem := by rw [hdriver, hbrake]; exact h.brake_mem
      measures := hservo
      steering := by rw [hdriver, hphase]; exact hsteering
      brake := by rw [hdriver, hflips, hbrake]; exact hbraking }

/-- New targets leave the loops as they are; a new brake value is a brake that was set. -/
lemma Flows.set_targets (h : Flows s st actual braked held) {target brake : Int32} {braked' : Bool}
    (ht : -45 ≤ target.toInt ∧ target.toInt ≤ 45) (hb : 0 ≤ brake.toInt ∧ brake.toInt ≤ 100)
    (hset : brake = s.driver.brake ∧ braked' = braked ∨ braked' = true) :
    Flows { s with driver := { s.driver with steeringTarget := target, brake } } st actual braked'
      held := by
  have hbrake : BrakeHolds s.driver.toggle brake.toInt braked' held (st .brake) := by
    rcases hset with ⟨rfl, rfl⟩ | rfl
    · exact h.brake
    · exact ⟨h.brake.quiet, nofun, h.brake.disagreed_le, h.brake.repeated_le⟩
  exact
    { h with
      runs := ⟨h.runs.calibration_eq, h.runs.active_eq⟩
      calm := ⟨h.calm.active_eq, h.calm.enabled_eq, h.calm.pending_eq⟩
      target_mem := ht
      brake_mem := hb
      brake := hbrake }

/-- A command of a nominal run may set targets, and leaves all else as it is. -/
theorem flows_command (h : Flows s st actual braked held) {c : Command}
    (hc : (Event.command c).Nominal) :
    Flows (s.handle (.command c)) st actual (braked || (Event.command c).setsBrake) held := by
  obtain ⟨id, request⟩ := c
  cases request with
  | setSteering deg =>
    obtain ⟨hlow, hhigh⟩ := hc
    rw [Int32.le_iff_toInt_le] at hlow hhigh
    exact h.set_targets ⟨hlow, hhigh⟩ h.brake_mem (Or.inl ⟨rfl, Bool.or_false _⟩)
  | setBrake pct =>
    obtain ⟨hlow, hhigh⟩ := hc
    rw [Int32.le_iff_toInt_le] at hlow hhigh
    exact h.set_targets h.target_mem ⟨hlow, hhigh⟩ (Or.inr (Bool.or_true _))
  | ping => exact (Bool.or_false braked).symm ▸ h
  | status => exact (Bool.or_false braked).symm ▸ h
  | getDtcs => exact (Bool.or_false braked).symm ▸ h
  | clearDtcs =>
    have hclear : s.services.events.clear = {} := by
      rw [h.events_eq]
      rfl
    rw [show (Event.command ⟨id, .clearDtcs⟩).setsBrake = false from rfl, Bool.or_false]
    exact
      { h with
        runs := ⟨h.runs.calibration_eq, h.runs.active_eq⟩
        calm := ⟨h.calm.active_eq, h.calm.enabled_eq, h.calm.pending_eq⟩
        events_eq := hclear }
  | _ => exact absurd hc not_false

/-! ## Runs -/

/-- Nothing has been recorded, both latches are open, and neither has held a fault. -/
structure Healthy (s : Simulation) : Prop where
  events_eq : s.services.events = {}
  latch_eq : ∀ a, ∃ active, (s.zone.governor a).active = some active ∧
    active.state.latch.state = .normal ∧ active.state.latch.disableLevel = 0

lemma Flows.healthy (h : Flows s st actual braked held) : Healthy s := by
  refine ⟨h.events_eq, fun a => ⟨_, h.runs.active_eq a, ?_⟩⟩
  cases a with
  | steering => exact ⟨h.steering.quiet.latch_eq, h.steering.quiet.level_eq⟩
  | brake => exact ⟨h.brake.quiet.latch_eq, h.brake.quiet.level_eq⟩

/-- A nominal run in which the brake is set before two ticks on end at most keeps flowing, and every
tick gives a clean report. -/
theorem flows_run (h : ofCalibration {} = .ok s) {es : List Event} (hnominal : ∀ e ∈ es, e.Nominal)
    (hbrake : ¬ [true, true, true] <:+: brakedTicks es) :
    (∃ st actual, Flows (s.run es) st actual (brakedSince es) (streak id (brakedTicks es))) ∧
      ∀ past, es = past ++ [.tick] →
        ∃ report, (s.run es).lastReport = some report ∧ report.Clean := by
  induction es using List.reverseRecOn with
  | nil => exact ⟨⟨_, _, flows_of_ofCalibration h⟩, fun past hpast => by simp at hpast⟩
  | append_singleton es e ih =>
    have hbefore := brakedTicks_isPrefix (List.prefix_append es [e])
    -- the streak of ticks with a new brake value is what the monitors of the brake may have counted
    obtain ⟨⟨st, actual, hflows⟩, -⟩ := ih
      (fun e he => hnominal e (List.mem_append_left _ he))
      (fun hwithin => hbrake (hwithin.trans hbefore.isInfix))
    have hle := streak_le_two hbrake
    rw [run_concat, brakedSince_concat]
    rw [brakedTicks_concat] at hle ⊢
    cases e with
    | tick =>
      rw [Event.isTick, if_pos rfl, streak_concat] at hle ⊢
      obtain ⟨hnext, hreport⟩ := flows_tick hflows rfl hle
      exact ⟨hnext, fun _ _ => hreport⟩
    | command c =>
      refine ⟨⟨st, actual, ?_⟩, fun past hpast => ?_⟩
      · exact flows_command hflows (hnominal _ (List.mem_append_right _ List.mem_cons_self))
      · obtain ⟨-, hlast⟩ := List.append_inj' hpast rfl
        exact nomatch hlast

/-- In a nominal run, as long as of any three ticks on end the brake was set before two at most,
whatever other commands came after it, nothing is ever found wrong: no event is recorded, both
latches stay open at level zero, and every report is clean. -/
theorem nominal_run_clean (h : ofCalibration {} = .ok s) {es : List Event}
    (hnominal : ∀ e ∈ es, e.Nominal) (hbrake : ¬ [true, true, true] <:+: brakedTicks es) :
    (∀ past, past <+: es → Healthy (s.run past)) ∧
      ∀ past, past ++ [.tick] <+: es →
        ∃ report, (s.run (past ++ [.tick])).lastReport = some report ∧ report.Clean := by
  have hrun {past : List Event} (hpast : past <+: es) := flows_run h
    (fun e he => hnominal e (hpast.subset he))
    (fun hwithin => hbrake (hwithin.trans (brakedTicks_isPrefix hpast).isInfix))
  refine ⟨fun past hpast => ?_, fun past hpast => (hrun hpast).2 past rfl⟩
  obtain ⟨⟨st, actual, hflows⟩, -⟩ := hrun hpast
  exact hflows.healthy

/-- A full turn of the wheel with the brake set before two of three ticks. -/
theorem turn_with_brake_clean :
    let es : List Event :=
      [.command ⟨1, .setSteering 45⟩, .command ⟨2, .setBrake 100⟩, .command ⟨3, .ping⟩, .tick,
        .command ⟨4, .setBrake 0⟩, .tick, .command ⟨5, .setSteering (-45)⟩, .tick,
        .command ⟨6, .setBrake 100⟩, .tick, .command ⟨7, .clearDtcs⟩, .tick]
    ∃ s report, ofCalibration {} = .ok s ∧ (∀ e ∈ es, e.Nominal) ∧
      brakedTicks es = [true, true, false, true, false] ∧ Healthy (s.run es) ∧
      (s.run es).lastReport = some report ∧ report.Clean := by
  intro es
  obtain ⟨s, hs⟩ : ∃ s, ofCalibration {} = .ok s := ⟨_, rfl⟩
  have hnominal : ∀ e ∈ es, e.Nominal := by decide +kernel
  have hbraked : brakedTicks es = [true, true, false, true, false] := by decide +kernel
  have hbrake : ¬ [true, true, true] <:+: brakedTicks es := by
    rw [hbraked]
    decide
  obtain ⟨hhealthy, hreports⟩ := nominal_run_clean hs hnominal hbrake
  obtain ⟨report, hlast, hclean⟩ := hreports es.dropLast (List.prefix_refl es)
  exact ⟨s, report, hs, hnominal, hbraked, hhealthy es (List.prefix_refl es), hlast, hclean⟩

/-- For each tick of a run, whether it comes right after a command for the brake. -/
def ticksRightAfterBrake (es : List Event) : List Bool :=
  (withPast es).filterMap fun x =>
    if x.2.isTick then some (x.1.getLast?.any (·.setsBrake)) else none

/-- A brake that jumps before every tick is taken for a fault at the third jump, also where a
command for the steering stands between it and the tick. -/
theorem jumps_before_steering_confirmed :
    let targets (pct : Int32) : List Event :=
      [.command ⟨1, .setBrake pct⟩, .command ⟨2, .setSteering 0⟩]
    let es := targets 50 ++ [.tick] ++ targets 0 ++ [.tick] ++ targets 50 ++ [.tick]
    ∃ s, ofCalibration {} = .ok s ∧ (∀ e ∈ es, e.Nominal) ∧
      ¬ [true, true, true] <:+: ticksRightAfterBrake es ∧
      (s.run es).lastReport.any (fun r =>
        r.faultMask = 2 ∧ r.brake.any (·.latch = .faulted 1 .plausibility)) ∧
      (s.run es).services.events.activeCodes ≠ [] := by
  intro targets es
  exact ⟨_, rfl, by decide +kernel, by decide +kernel, by decide +kernel, by decide +kernel⟩

end Simulation
end FrontZone
