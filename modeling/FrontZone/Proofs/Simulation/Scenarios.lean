import FrontZone.Proofs.Schedule.Delivery
import FrontZone.Proofs.Simulation.Run
/-!
# Scenarios in a simulation

A scenario that is refused counts in the statistics of the schedule and may leave stimuli behind.
Nothing but the status of a simulation reads those statistics: `run_withStats` says that two
simulations that differ in them only go on alike. So a refusal that left no stimulus behind cannot
be told from the ticks that follow.
-/

namespace FrontZone

namespace Schedule

/-- The schedule with other statistics. -/
def withStats (q : Schedule) (stats : ScheduleStats) : Schedule :=
  { q with stats }

variable (q : Schedule) (stats : ScheduleStats)

lemma schedule_withStats (atCycle : UInt64) (stimulus : Stimulus) (now : UInt64) :
    ∃ stats', (q.withStats stats).schedule atCycle stimulus now =
      ((q.schedule atCycle stimulus now).1.withStats stats',
        (q.schedule atCycle stimulus now).2) := by
  unfold schedule
  show ∃ stats', (if atCycle < now then _
    else if maxScheduledStimuli ≤ q.pending.length then _ else _) = _
  split
  · exact ⟨_, rfl⟩
  · split <;> exact ⟨_, rfl⟩

lemma scheduleAll_withStats (start : UInt64) (script : List (UInt64 × Stimulus)) :
    ∃ stats', scheduleAll start script (q.withStats stats) =
      ((scheduleAll start script q).1.withStats stats', (scheduleAll start script q).2) := by
  induction script generalizing q stats with
  | nil => exact ⟨stats, rfl⟩
  | cons s rest ih =>
    obtain ⟨offset, stimulus⟩ := s
    obtain ⟨stats', hstats⟩ := schedule_withStats q stats (start + offset) stimulus start
    unfold scheduleAll
    rw [hstats]
    cases q.schedule (start + offset) stimulus start with
    | mk q' result =>
      cases result with
      | ok u => exact ih q' stats'
      | error e => exact ⟨stats', rfl⟩

lemma load_withStats (scenario : Scenario) (start : UInt64) :
    ∃ stats', (q.withStats stats).load scenario start =
      ((q.load scenario start).1.withStats stats', (q.load scenario start).2) := by
  obtain ⟨stats', hstats⟩ := scheduleAll_withStats q stats start scenario.stimuli
  unfold load
  rw [hstats]
  exact ⟨stats', rfl⟩

end Schedule

namespace Simulation

/-- The simulation with other statistics of the schedule. -/
def withStats (s : Simulation) (stats : ScheduleStats) : Simulation :=
  { s with schedule := s.schedule.withStats stats }

variable (s : Simulation) (stats : ScheduleStats)

/-! ## Statistics are not read -/

lemma apply_withStats (stimulus : Stimulus) :
    ((s.withStats stats).apply stimulus).value = (s.apply stimulus).value.withStats stats := by
  cases stimulus with
  | emergencyStop active => cases active <;> rfl
  | _ => rfl

lemma applyDue_withStats :
    ∃ stats', (s.withStats stats).applyDue.value = s.applyDue.value.withStats stats' :=
  ⟨_, applyAll_map _ (fun s stimulus => apply_withStats s _ stimulus)
    { s with schedule := (s.schedule.takeDue s.cycle).1 }⟩

lemma emit_withStats (report : ZoneReport) :
    (s.withStats stats).emit report =
      ((s.emit report).1.withStats stats, (s.emit report).2) := by
  unfold emit
  dsimp only
  show (if (s.telemetry.observe report.faultMask).2 then _ else _) = _
  split <;> rfl

lemma tick_withStats :
    ∃ stats', (s.withStats stats).tick.value =
      (s.tick.value.1.withStats stats', s.tick.value.2) := by
  obtain ⟨stats', hdue⟩ := applyDue_withStats s.openCycle.value stats
  have hopen : (s.withStats stats).openCycle.value = s.openCycle.value.withStats stats := rfl
  refine ⟨stats', ?_⟩
  rw [tick_value, tick_value, hopen, hdue]
  generalize s.openCycle.value.applyDue.value = due
  exact emit_withStats due.control.value stats' (due.zone.perform due.call).report

lemma handle_command_withStats (c : Command) :
    ∃ stats', (s.withStats stats).handle (.command c) =
      (s.handle (.command c)).withStats stats' := by
  obtain ⟨id, request⟩ := c
  cases request with
  | injectSensorFault fault duration =>
    obtain ⟨stats', hschedule⟩ := s.schedule.schedule_withStats stats s.cycle
      (.injectSensorFault fault duration) s.cycle
    refine ⟨stats', ?_⟩
    show ((s.withStats stats).scheduleFault _ fault duration).1 =
      (s.scheduleFault _ fault duration).1.withStats stats'
    rw [scheduleFault_fst, scheduleFault_fst]
    exact congrArg (fun taken => { s with schedule := taken.1 }) hschedule
  | runScenario scenario =>
    obtain ⟨stats', hload⟩ := s.schedule.load_withStats stats scenario s.cycle
    refine ⟨stats', ?_⟩
    show ((s.withStats stats).runScenario _ scenario).value.1 =
      (s.runScenario _ scenario).value.1.withStats stats'
    rw [runScenario_fst, runScenario_fst]
    exact congrArg (fun loaded => { s with schedule := loaded.1 }) hload
  | setSteering deg => exact ⟨stats, apply_withStats s stats (.setSteering deg)⟩
  | setBrake pct => exact ⟨stats, apply_withStats s stats (.setBrake pct)⟩
  | emergencyStop active => exact ⟨stats, apply_withStats s stats (.emergencyStop active)⟩
  | setVehicleState state => exact ⟨stats, apply_withStats s stats (.setVehicleState state)⟩
  | clearSensorFault => exact ⟨stats, apply_withStats s stats .clearSensorFault⟩
  | freezeCommands frozen => exact ⟨stats, apply_withStats s stats (.freezeCommands frozen)⟩
  | restart a =>
    refine ⟨stats, ?_⟩
    show ((s.withStats stats).restart _ a).value.1 = (s.restart _ a).value.1.withStats stats
    rw [restart_fst, restart_fst]
    rfl
  | ping => exact ⟨stats, rfl⟩
  | status => exact ⟨stats, rfl⟩
  | setFaultInjection enabled => exact ⟨stats, rfl⟩
  | getDtcs => exact ⟨stats, rfl⟩
  | clearDtcs => exact ⟨stats, rfl⟩

/-- Simulations that differ in the statistics of the schedule only go on so. -/
lemma run_withStats (es : List Event) :
    ∃ stats', (s.withStats stats).run es = (s.run es).withStats stats' := by
  induction es using List.reverseRecOn with
  | nil => exact ⟨stats, rfl⟩
  | append_singleton past e ih =>
    obtain ⟨before, hbefore⟩ := ih
    rw [run_concat, run_concat, hbefore]
    cases e with
    | tick =>
      obtain ⟨after, hafter⟩ := tick_withStats (s.run past) before
      refine ⟨after, ?_⟩
      show ((s.run past).withStats before).tick.value.1 = (s.run past).tick.value.1.withStats after
      rw [hafter]
    | command c => exact handle_command_withStats (s.run past) before c

/-! ## Refused scenarios -/

section Refused
variable {s} {c : Command} {scenario : Scenario}

/-- A scenario that is refused was refused by the schedule, and what it did to the schedule is all
that it did. -/
lemma load_of_rejected (hc : c.request = .runScenario scenario)
    (hrejected : (s.execute c).value.2.status = .rejected) :
    (∃ e, (s.schedule.load scenario s.cycle).2 = .error e) ∧
      s.handle (.command c) =
        { s with schedule := (s.schedule.load scenario s.cycle).1 } := by
  obtain ⟨id, request⟩ := c
  obtain rfl : request = .runScenario scenario := hc
  refine ⟨?_, runScenario_fst ..⟩
  change (s.runScenario _ scenario).value.2.status = .rejected at hrejected
  unfold runScenario at hrejected
  generalize s.schedule.load scenario s.cycle = loaded at hrejected ⊢
  obtain ⟨q, result⟩ := loaded
  cases result with
  | ok n => exact nomatch hrejected
  | error e => exact ⟨e, rfl⟩

/-- Where the first stimulus was refused, the ticks that follow do not tell that a scenario was
asked for. -/
lemma run_of_refusesFirst (hc : c.request = .runScenario scenario)
    (hrejected : (s.execute c).value.2.status = .rejected)
    (hfirst : s.schedule.RefusesFirst scenario s.cycle) (es : List Event) :
    ∃ stats, (s.handle (.command c)).run es = (s.run es).withStats stats := by
  obtain ⟨⟨e, herror⟩, hhandle⟩ := load_of_rejected hc hrejected
  have hpending := (Schedule.pending_load_iff herror).mpr hfirst
  have hstats : s.handle (.command c) =
      s.withStats (s.schedule.load scenario s.cycle).1.stats := by
    rw [hhandle, withStats, Schedule.withStats, ← hpending]
  rw [hstats]
  exact run_withStats s _ es

end Refused

/-- A scenario that is loaded is added whole, each stimulus for its cycle after the start. One that
is refused leaves the queue as it was exactly if its first stimulus was refused; then every later
tick reports and sends what it would have without the request. -/
theorem scenario_whole_or_first_refused (scenario : Scenario) :
    (∀ (q : Schedule) (start : UInt64),
      (∀ n, (q.load scenario start).2 = .ok n →
        n = scenario.stimuli.length ∧
          (q.load scenario start).1.pending.Perm
            (q.pending ++ Schedule.entries start scenario.stimuli) ∧
          ∀ s ∈ scenario.stimuli, (start + s.1).toNat = start.toNat + s.1.toNat) ∧
      ∀ e, (q.load scenario start).2 = .error e →
        ((q.load scenario start).1.pending = q.pending ↔ q.RefusesFirst scenario start)) ∧
    ∀ (s : Simulation) (c : Command), c.request = .runScenario scenario →
      (s.execute c).value.2.status = .rejected → s.schedule.RefusesFirst scenario s.cycle →
      ∀ es : List Event,
        ((s.handle (.command c)).run es).tick.value.2 = (s.run es).tick.value.2 ∧
          ((s.handle (.command c)).run (es ++ [.tick])).lastReport =
            (s.run (es ++ [.tick])).lastReport := by
  refine ⟨fun q start =>
    ⟨fun n => Schedule.pending_load_of_ok, fun e => Schedule.pending_load_iff⟩,
    fun s c hc hrejected hfirst es => ?_⟩
  constructor
  · obtain ⟨stats, hrun⟩ := run_of_refusesFirst hc hrejected hfirst es
    obtain ⟨stats', htick⟩ := tick_withStats (s.run es) stats
    rw [hrun, htick]
  · obtain ⟨stats, hrun⟩ := run_of_refusesFirst hc hrejected hfirst (es ++ [.tick])
    rw [hrun]
    rfl

/-- A scenario on an empty queue is loaded; one that finds the queue full cannot be told from the
first tick after it. -/
theorem scenario_refused_by_full_queue :
    let filling : List Event := List.replicate 13 (.command ⟨1, .runScenario .nominal⟩)
    let c : Command := ⟨2, .runScenario .staleCommands⟩
    ((({} : Schedule).load .staleCommands 7).2 = .ok 2 ∧
      (({} : Schedule).load .staleCommands 7).1.pending.Perm
        [⟨17, .freezeCommands true⟩, ⟨47, .freezeCommands false⟩]) ∧
    ∃ start, ofCalibration {} = .ok start ∧
      ((start.run filling).execute c).value.2.status = .rejected ∧
      (start.run filling).schedule.RefusesFirst .staleCommands (start.run filling).cycle ∧
      (((start.run filling).handle (.command c)).run []).tick.value.2 =
        ((start.run filling).run []).tick.value.2 := by
  intro filling c
  obtain ⟨hload, hrefused⟩ := scenario_whole_or_first_refused .staleCommands
  have hok : (({} : Schedule).load .staleCommands 7).2 = .ok 2 := by decide
  refine ⟨⟨hok, ((hload {} 7).1 2 hok).2.1⟩, ?_⟩
  obtain ⟨start, hstart, hrejected, hfull⟩ : ∃ start, ofCalibration {} = .ok start ∧
      ((start.run filling).execute c).value.2.status = .rejected ∧
      maxScheduledStimuli ≤ (start.run filling).schedule.pending.length :=
    ⟨_, rfl, by decide +kernel, by decide +kernel⟩
  exact ⟨start, hstart, hrejected, Or.inl hfull,
    (hrefused _ c rfl hrejected (Or.inl hfull) []).1⟩

/-- With room for two stimuli the script of the emergency stop is refused at its third: the stop is
scheduled then, and its release is not. -/
theorem refused_stop_is_never_released :
    let filling : List Event :=
      List.replicate 12 (.command ⟨1, .runScenario .nominal⟩) ++
        List.replicate 2 (.command ⟨2, .injectSensorFault (.offset 0) (some 1)⟩)
    let c : Command := ⟨3, .runScenario .emergencyStop⟩
    ∃ start, ofCalibration {} = .ok start ∧
      ((start.run filling).execute c).value.2.status = .rejected ∧
      (start.run filling).schedule.pending.length = 62 ∧
      (start.run (filling ++ [.command c])).schedule.pending.length = 64 ∧
      (⟨100, .emergencyStop true⟩ : ScheduledStimulus) ∈
        (start.run (filling ++ [.command c])).schedule.pending ∧
      ∀ t ∈ (start.run (filling ++ [.command c])).schedule.pending,
        t.stimulus ≠ .emergencyStop false := by
  intro filling c
  exact ⟨_, rfl, by decide +kernel, by decide +kernel, by decide +kernel, by decide +kernel,
    by decide +kernel⟩

end Simulation
end FrontZone
