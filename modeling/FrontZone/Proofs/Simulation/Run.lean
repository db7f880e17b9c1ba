import FrontZone.Proofs.Zone.Run
import FrontZone.Simulation.Execution
/-!
# Runs of a simulation

A simulation lives from tick to tick, with commands carried out in between. Of all it does, only the
cycles of a tick, a restart and a clear request reach the governors and the event store:
`tick_cycles` names the cycles that a tick comes to, `handle_restart` and `handle_clearDtcs` say
what the two commands do, and `keeps_execute` that all others do nothing of the kind. An `Operation`
is whatever a simulation can be asked for, stimuli from outside and commands that wait included.
-/

namespace FrontZone

namespace Simulation

open Governor (State Call)

variable {s s' : Simulation}

/-! ## Runs -/

/-- What can happen to a simulation. -/
inductive Event where
  | tick
  | command (c : Command)

/-- Whether an event lets a cycle pass. -/
def Event.isTick : Event → Bool
  | .tick => true
  | .command _ => false

/-- The simulation after one event. -/
def handle (s : Simulation) : Event → Simulation
  | .tick => s.tick.value.1
  | .command c => (s.execute c).value.1

/-- The simulation after a run of events. -/
def run (s : Simulation) (es : List Event) : Simulation :=
  es.foldl handle s

lemma run_concat (s : Simulation) (es : List Event) (e : Event) :
    s.run (es ++ [e]) = (s.run es).handle e :=
  List.foldl_concat ..

/-! ## Runs with a queue -/

/-- What a simulation can be asked to do. -/
inductive Operation where
  | tick
  /-- A stimulus from outside, without a command. -/
  | apply (stimulus : Stimulus)
  | execute (c : Command)
  /-- Lets a command wait, if there is room. -/
  | enqueue (c : Command)
  | processQueue
  | takeReplies

/-- The simulation after an operation. -/
def operate (s : Simulation) : Operation → Simulation
  | .tick => s.tick.value.1
  | .apply stimulus => (s.apply stimulus).value
  | .execute c => (s.execute c).value.1
  | .enqueue c => (s.enqueue c).getD s
  | .processQueue => s.processQueue.value
  | .takeReplies => s.takeReplies.1

/-- The simulation after operations in order. -/
def operateAll (s : Simulation) (ops : List Operation) : Simulation :=
  ops.foldl operate s

lemma operateAll_concat (s : Simulation) (ops : List Operation) (op : Operation) :
    s.operateAll (ops ++ [op]) = (s.operateAll ops).operate op :=
  List.foldl_concat ..

/-! ## What stimuli leave alone -/

section ApplyAll
variable (stimuli : List Stimulus)

/-- What each stimulus leaves alone, all of them do. -/
lemma applyAll_eq {α : Type} {f : Simulation → α}
    (h : ∀ (s : Simulation) stimulus, f (s.apply stimulus).value = f s) (s : Simulation) :
    f (applyAll stimuli s).value = f s := by
  induction stimuli generalizing s with
  | nil => rfl
  | cons stimulus rest ih => exact (ih _).trans (h s stimulus)

/-- A change that makes no difference to any stimulus makes none to all of them. -/
lemma applyAll_map {f : Simulation → Simulation}
    (h : ∀ s stimulus, ((f s).apply stimulus).value = f (s.apply stimulus).value)
    (s : Simulation) : (applyAll stimuli (f s)).value = f (applyAll stimuli s).value := by
  induction stimuli generalizing s with
  | nil => rfl
  | cons stimulus rest ih =>
    show (applyAll rest ((f s).apply stimulus).value).value = _
    rw [h, ih]
    rfl

end ApplyAll

/-- Two simulations with the same calibrations, governors and services. -/
structure Keeps (s s' : Simulation) : Prop where
  calibration_eq : s'.calibration = s.calibration
  governor_eq : ∀ a, s'.zone.governor a = s.zone.governor a
  services_eq : s'.services = s.services

lemma Keeps.refl (s : Simulation) : Keeps s s :=
  ⟨rfl, fun _ => rfl, rfl⟩

lemma Keeps.trans {s'' : Simulation} (h : Keeps s s') (h' : Keeps s' s'') : Keeps s s'' :=
  ⟨h'.calibration_eq.trans h.calibration_eq,
    fun a => (h'.governor_eq a).trans (h.governor_eq a), h'.services_eq.trans h.services_eq⟩

lemma keeps_apply (s : Simulation) (stimulus : Stimulus) : Keeps s (s.apply stimulus).value := by
  cases stimulus with
  | setSteering deg => exact ⟨rfl, fun _ => rfl, rfl⟩
  | setBrake pct => exact ⟨rfl, fun _ => rfl, rfl⟩
  | emergencyStop active => cases active <;> exact ⟨rfl, fun a => by cases a <;> rfl, rfl⟩
  | setVehicleState state =>
    refine ⟨rfl, fun a => ?_, rfl⟩
    show (s.zone.setVehicleState state).value.governor a = _
    unfold Zone.setVehicleState
    split <;> cases a <;> rfl
  | injectSensorFault fault duration => exact ⟨rfl, fun _ => rfl, rfl⟩
  | clearSensorFault => exact ⟨rfl, fun _ => rfl, rfl⟩
  | freezeCommands frozen => exact ⟨rfl, fun _ => rfl, rfl⟩

lemma keeps_applyAll (stimuli : List Stimulus) (s : Simulation) :
    Keeps s (applyAll stimuli s).value := by
  induction stimuli generalizing s with
  | nil => exact Keeps.refl s
  | cons stimulus rest ih => exact (keeps_apply s stimulus).trans (ih _)

lemma keeps_openCycle (s : Simulation) : Keeps s s.openCycle.value :=
  ⟨rfl, fun _ => rfl, rfl⟩

lemma keeps_applyDue (s : Simulation) : Keeps s s.applyDue.value := by
  have hschedule : Keeps s { s with schedule := (s.schedule.takeDue s.cycle).1 } :=
    ⟨rfl, fun _ => rfl, rfl⟩
  exact hschedule.trans (keeps_applyAll _ _)

/-! ## The cycles of a tick -/

/-- Both governors run, on the calibrations of the simulation and in the states `st`. -/
structure Runs (s : Simulation) (z : ZoneCalibration) (st : Actuator → State) : Prop where
  calibration_eq : s.calibration = z
  active_eq : ∀ a, (s.zone.governor a).active = some ⟨z.actuator a, st a⟩

variable {z : ZoneCalibration} {st : Actuator → State}

/-- What two cycles report, steering before brake. -/
def tickEvents (z : ZoneCalibration) (st : Actuator → State) (k : Actuator → Call) :
    List (Dtc × EventStatus) :=
  ((k .steering).outcome z.steering (st .steering)).events ++
    ((k .brake).outcome z.brake (st .brake)).events

/-- What a tick comes to: a cycle of each governor, both reporting into one store. -/
structure Cycles (s s' : Simulation) (z : ZoneCalibration) (st : Actuator → State)
    (k : Actuator → Call) : Prop where
  runs : Runs s' z fun a => ((k a).outcome (z.actuator a) (st a)).state
  events_eq : s'.services.events = s.services.events.recordAll (tickEvents z st k)
  report_eq : ∃ report, s'.lastReport = some report ∧
    ∀ a, report.actuator a = some ((k a).outcome (z.actuator a) (st a)).report

/-- What the zone's cycle of a tick is called with. -/
def call (s : Simulation) : Zone.Call where
  commands := s.driver.next.2
  rig := fun
    | .steering => s.steeringRig
    | .brake => s.brakeRig
  services := s.services

/-- The zone runs on what the driver gives and the hardware shows. -/
lemma control_eq (s : Simulation) :
    s.control.value =
      { s with
        driver := s.driver.next.1
        zone := (s.zone.perform s.call).zone
        steeringRig := (s.zone.perform s.call).steeringRig.advance
        brakeRig := (s.zone.perform s.call).brakeRig
        services := (s.zone.perform s.call).services
        lastReport := some (s.zone.perform s.call).report } := rfl

/-- A cycle of the zone is a cycle of each governor. -/
lemma perform_of_runs (h : Runs s z st) (k : Zone.Call) (a : Actuator) :
    let o := (s.zone.call k a).outcome (z.actuator a) (st a)
    ((s.zone.perform k).zone.governor a).active = some ⟨z.actuator a, o.state⟩ ∧
      (s.zone.perform k).rig a =
        o.onRig (Governor.sense (z.actuator a) (s.zone.call k a).inputs (k.rig a)).1 ∧
      (s.zone.perform k).report.actuator a = some o.report := by
  intro o
  obtain ⟨hgovernor, hrig, hreport⟩ := s.zone.perform_actuator k a
  rw [hgovernor, hrig, hreport, Governor.perform_of_active (h.active_eq a), (s.zone.call_eq k a).2]
  exact ⟨rfl, rfl, rfl⟩

/-- The brake reports into the store that steering has left. -/
lemma services_perform (h : Runs s z st) (k : Zone.Call) :
    (s.zone.perform k).services =
      ((s.zone.call k .brake).outcome z.brake (st .brake)).onServices
        (((s.zone.call k .steering).outcome z.steering (st .steering)).onServices k.services) := by
  have hsteering := Governor.perform_of_active (h.active_eq .steering) (s.zone.call k .steering)
  have hbrake := Governor.perform_of_active (h.active_eq .brake) (s.zone.call k .brake)
  have hservices : (s.zone.call k .brake).services =
      ((s.zone.call k .steering).outcome z.steering (st .steering)).onServices k.services :=
    congrArg (·.services) hsteering
  rw [Zone.services_perform, ← hservices]
  exact congrArg (·.services) hbrake

/-- Cycles without events leave the store as it is. -/
lemma events_of_runs (h : Runs s z st) (k : Zone.Call)
    (hsteering : ((s.zone.call k .steering).outcome z.steering (st .steering)).events = [])
    (hbrake : ((s.zone.call k .brake).outcome z.brake (st .brake)).events = []) :
    (s.zone.perform k).services.events = k.services.events := by
  rw [services_perform h]
  show (k.services.events.recordAll
    ((s.zone.call k .steering).outcome z.steering (st .steering)).events).recordAll
    ((s.zone.call k .brake).outcome z.brake (st .brake)).events = _
  rw [hsteering, hbrake]
  rfl

/-- The cycle of the zone. -/
lemma control_cycles (h : Runs s z st) : ∃ k, Cycles s s.control.value z st k := by
  have hperform := perform_of_runs h s.call
  refine ⟨s.zone.call s.call, ⟨h.calibration_eq, fun a => (hperform a).1⟩, ?_, _, rfl,
    fun a => (hperform a).2.2⟩
  show (s.zone.perform s.call).services.events = _
  rw [services_perform h]
  exact List.foldl_append.symm

/-- Telemetry looks on. -/
lemma emit_eq (s : Simulation) (report : ZoneReport) :
    ∃ telemetry, (s.emit report).1 = { s with telemetry } := by
  unfold emit
  dsimp only
  split <;> exact ⟨_, rfl⟩

/-- A tick lets what is due happen, runs the zone and sends telemetry. -/
lemma tick_value (s : Simulation) :
    s.tick.value =
      let due := s.openCycle.value.applyDue.value
      due.control.value.emit (due.zone.perform due.call).report := by
  unfold tick
  simp only [Logged.value_bind]
  generalize s.openCycle.value.applyDue.value = due
  rw [control_eq]
  rfl

lemma handle_tick (s : Simulation) :
    s.handle .tick =
      let due := s.openCycle.value.applyDue.value
      (due.control.value.emit (due.zone.perform due.call).report).1 :=
  congrArg Prod.fst (tick_value s)

lemma Runs.of_keeps (h : Runs s z st) (hk : Keeps s s') : Runs s' z st :=
  ⟨hk.calibration_eq.trans h.calibration_eq, fun a => (hk.governor_eq a).symm ▸ h.active_eq a⟩

/-- A tick of a simulation whose governors run is a cycle of each. -/
theorem tick_cycles (h : Runs s z st) : ∃ k, Cycles s (s.handle .tick) z st k := by
  have hdue : Keeps s s.openCycle.value.applyDue.value :=
    (keeps_openCycle s).trans (keeps_applyDue _)
  rw [handle_tick]
  generalize s.openCycle.value.applyDue.value = due at hdue
  obtain ⟨k, hk⟩ := control_cycles (h.of_keeps hdue)
  obtain ⟨telemetry, hemit⟩ := emit_eq due.control.value (due.zone.perform due.call).report
  refine ⟨k, ?_⟩
  dsimp only
  rw [hemit]
  refine ⟨⟨hk.runs.calibration_eq, hk.runs.active_eq⟩, ?_, hk.report_eq⟩
  rw [← hdue.services_eq]
  exact hk.events_eq

/-! ## Ticks in calm surroundings -/

/-- No sensor fault in force, none drawn at random, and no stimulus scheduled. -/
structure Calm (s : Simulation) : Prop where
  active_eq : s.injector.active = none
  enabled_eq : s.injector.settings.enabled = false
  pending_eq : s.schedule.pending = []

/-- An injector without a fault to age or to draw counts the cycle. -/
lemma update_of_idle {i : Injector} (rig : Rig) (hactive : i.active = none)
    (henabled : i.settings.enabled = false) :
    i.update rig = pure ({ i with cycleCount := i.cycleCount + 1 }, rig) := by
  -- in parts, so that the branches not taken are never looked at
  obtain ⟨⟨enabled, rate, dropout, offset, stuck, shortest, longest, deg⟩, active, stats, count,
    random⟩ := i
  obtain rfl : active = none := hactive
  obtain rfl : enabled = false := henabled
  rfl

/-- In calm surroundings a tick finds the simulation as it is, but for counters. -/
lemma due_of_calm (h : Calm s) : ∃ injector schedule,
    s.openCycle.value.applyDue.value = { s with injector, schedule } ∧
      Calm { s with injector, schedule } := by
  obtain ⟨injector, hopen, hactive, henabled⟩ : ∃ injector,
      s.openCycle.value = { s with injector } ∧ injector.active = none ∧
        injector.settings.enabled = false := by
    unfold openCycle
    rw [update_of_idle s.steeringRig h.active_eq h.enabled_eq]
    exact ⟨_, rfl, h.active_eq, h.enabled_eq⟩
  obtain ⟨schedule, hdue, hpending⟩ : ∃ schedule,
      { s with injector }.applyDue.value = { s with injector, schedule } ∧
        schedule.pending = [] := by
    unfold applyDue Schedule.takeDue Schedule.due
    rw [show ({ s with injector } : Simulation).schedule.pending = [] from h.pending_eq]
    exact ⟨_, rfl, rfl⟩
  rw [hopen, hdue]
  exact ⟨injector, schedule, rfl, hactive, henabled, hpending⟩

/-- In calm surroundings a tick is the cycle of the zone and nothing else. -/
theorem tick_of_calm (h : Calm s) :
    let step := s.zone.perform s.call
    Calm (s.handle .tick) ∧ (s.handle .tick).calibration = s.calibration ∧
      (s.handle .tick).driver = s.driver.next.1 ∧ (s.handle .tick).zone = step.zone ∧
      (s.handle .tick).steeringRig = step.steeringRig.advance ∧
      (s.handle .tick).services = step.services ∧
      (s.handle .tick).lastReport = some step.report := by
  obtain ⟨injector, schedule, hdue, hcalm⟩ := due_of_calm h
  obtain ⟨telemetry, hemit⟩ := emit_eq { s with injector, schedule }.control.value
    (s.zone.perform s.call).report
  have htick : s.handle .tick = { { s with injector, schedule }.control.value with telemetry } := by
    rw [← hemit, handle_tick, hdue]
    rfl
  rw [htick, control_eq]
  exact ⟨⟨hcalm.active_eq, hcalm.enabled_eq, hcalm.pending_eq⟩, rfl, rfl, rfl, rfl, rfl, rfl⟩

/-! ## The effect of a command -/

lemma scheduleFault_fst (s : Simulation) (c : Command) (fault : SensorFault)
    (duration : Option UInt32) :
    (s.scheduleFault c fault duration).1 =
      { s with
        schedule :=
          (s.schedule.schedule s.cycle (.injectSensorFault fault duration) s.cycle).1 } := by
  unfold scheduleFault
  dsimp only
  split <;> rfl

lemma runScenario_fst (s : Simulation) (c : Command) (scenario : Scenario) :
    (s.runScenario c scenario).value.1 =
      { s with schedule := (s.schedule.load scenario s.cycle).1 } := by
  unfold runScenario
  dsimp only
  split <;> rfl

lemma restart_fst (s : Simulation) (c : Command) (b : Actuator) :
    (s.restart c b).value.1 =
      { s with zone := (s.zone.reinit b (some (s.calibration.actuator b))).value.1 } := by
  unfold restart
  simp only [Logged.value_bind]
  cases b <;> dsimp only <;> split <;> rfl

/-- Most commands leave the governors and the services alone. -/
lemma keeps_execute (s : Simulation) {c : Command} (hrestart : ∀ a, c.request ≠ .restart a)
    (hclear : c.request ≠ .clearDtcs) : Keeps s (s.handle (.command c)) := by
  obtain ⟨id, request⟩ := c
  cases request with
  | ping => exact Keeps.refl s
  | status => exact Keeps.refl s
  | getDtcs => exact Keeps.refl s
  | setSteering deg => exact keeps_apply s (.setSteering deg)
  | setBrake pct => exact keeps_apply s (.setBrake pct)
  | emergencyStop active => exact keeps_apply s (.emergencyStop active)
  | setVehicleState state => exact keeps_apply s (.setVehicleState state)
  | clearSensorFault => exact keeps_apply s .clearSensorFault
  | freezeCommands frozen => exact keeps_apply s (.freezeCommands frozen)
  | setFaultInjection enabled => exact ⟨rfl, fun _ => rfl, rfl⟩
  | injectSensorFault fault duration =>
    show Keeps s (s.scheduleFault _ fault duration).1
    rw [scheduleFault_fst]
    exact ⟨rfl, fun _ => rfl, rfl⟩
  | runScenario scenario =>
    show Keeps s (s.runScenario _ scenario).value.1
    rw [runScenario_fst]
    exact ⟨rfl, fun _ => rfl, rfl⟩
  | restart a => exact absurd rfl (hrestart a)
  | clearDtcs => exact absurd rfl hclear

/-- A restart starts over the governor that it names and does nothing else to governors and
services. -/
lemma handle_restart (s : Simulation) {c : Command} {b : Actuator} (hc : c.request = .restart b) :
    let s' := s.handle (.command c)
    s'.calibration = s.calibration ∧ s'.services = s.services ∧
      ∀ a, s'.zone.governor a =
        if a = b then ((s.zone.governor a).reinit (some (s.calibration.actuator a))).1
        else s.zone.governor a := by
  obtain ⟨id, request⟩ := c
  obtain rfl : request = .restart b := hc
  have hrestart : s.handle (.command ⟨id, .restart b⟩) =
      { s with zone := (s.zone.reinit b (some (s.calibration.actuator b))).value.1 } :=
    restart_fst s ⟨id, .restart b⟩ b
  rw [hrestart]
  refine ⟨rfl, rfl, fun a => ?_⟩
  cases a <;> cases b <;> rfl

/-- After a restart the governor named is in its initial state. -/
lemma Runs.restart (h : Runs s z st) (hv : ∀ a, (z.actuator a).IsValid) {c : Command} {b : Actuator}
    (hc : c.request = .restart b) :
    Runs (s.handle (.command c)) z fun a => if a = b then .initial (z.actuator a) else st a := by
  obtain ⟨hcalibration, -, hgovernor⟩ := handle_restart s hc
  refine ⟨hcalibration.trans h.calibration_eq, fun a => ?_⟩
  rw [hgovernor a]
  by_cases hsame : a = b
  · rw [if_pos hsame, if_pos hsame, h.calibration_eq, Governor.reinit_of_isValid _ (hv a)]
  · rw [if_neg hsame, if_neg hsame]
    exact h.active_eq a

/-- A clear request wipes the store and leaves the governors alone. -/
lemma handle_clearDtcs (s : Simulation) {c : Command} (hc : c.request = .clearDtcs) :
    let s' := s.handle (.command c)
    s'.calibration = s.calibration ∧ (∀ a, s'.zone.governor a = s.zone.governor a) ∧
      s'.services.events = s.services.events.clear := by
  obtain ⟨id, request⟩ := c
  obtain rfl : request = .clearDtcs := hc
  exact ⟨rfl, fun _ => rfl, rfl⟩

/-! ## Starting -/

/-- A simulation starts on valid calibrations, with the zone at its start and nothing reported. -/
lemma eq_of_ofCalibration (h : ofCalibration z = .ok s) :
    ∃ zone, Zone.ofCalibration z = .ok zone ∧
      s =
        { calibration := z
          zone
          steeringRig := .withServo (.ofCalibration z.steering servoSlewPerCycle)
          brakeRig := .scripted z.brake.initialPosition
          telemetry := .every z.telemetryEveryCycles } := by
  unfold ofCalibration at h
  cases hvalid : z.validate with
  | error e =>
    rw [hvalid] at h
    exact nomatch h
  | ok u =>
    cases hzone : Zone.ofCalibration z with
    | error e =>
      rw [hvalid, hzone] at h
      exact nomatch h
    | ok zone =>
      rw [hvalid, hzone] at h
      exact ⟨zone, rfl, (Except.ok.inj h).symm⟩

/-- At the start both governors are in their initial states. -/
lemma runs_of_ofCalibration (h : ofCalibration z = .ok s) :
    (∀ a, (z.actuator a).IsValid) ∧ Runs s z (fun a => .initial (z.actuator a)) ∧
      s.services = {} := by
  obtain ⟨zone, hzone, rfl⟩ := eq_of_ofCalibration h
  obtain ⟨hvalid, rfl⟩ := Zone.ofCalibration_eq_ok_iff.mp hzone
  exact ⟨hvalid, ⟨rfl, fun a => by cases a <;> rfl⟩, rfl⟩

end Simulation
end FrontZone
