import FrontZone.Proofs.DriverModel.Steering
import FrontZone.Proofs.Schedule.Loading
import FrontZone.Proofs.Simulation.Run
/-!
# Where a simulation is defined

A tick is undefined where the driver is asked for commands it does not have: in a fourth step with
the target out of reach, and in no other (`tick?_eq`, `tick?_eq_none_iff`). What is defined goes
where `operate` goes (`operateAll_of_operateAll?`), so whatever holds after every run holds wherever
a run gets to; and it gets to its end as long as steering targets stay in the middle half of the
words (`operateAll?_eq`). The invariant is of the driver, of what is scheduled for it and of what
waits to be carried out, for any range of targets that turns do not leave (`Steers`).
-/

namespace FrontZone

open DriverModel (InReach turned)

/-! ## Ranges of steering targets -/

/-- The steering target that a stimulus sets. -/
def Stimulus.target? : Stimulus → Option Int32
  | .setSteering deg => some deg
  | _ => none

/-- The steering target that a command sets by itself; a scenario only schedules those it sets. -/
def Command.target? (c : Command) : Option Int32 :=
  match c.request with
  | .setSteering deg => some deg
  | _ => none

/-- A range of steering values that no turn leaves and no scenario aims beyond. -/
structure IsSteeringRange (P : Int32 → Prop) : Prop where
  turned : ∀ {target v}, P target → P v → P (turned target v)
  scripted : ∀ scenario : Scenario, ∀ s ∈ scenario.stimuli, ∀ deg ∈ s.2.target?, P deg

lemma isSteeringRange_all : IsSteeringRange fun _ => True :=
  ⟨fun _ _ => trivial, fun _ _ _ _ _ => trivial⟩

/-- The middle half of the words. -/
def Moderate (deg : Int32) : Prop :=
  -1073741824 ≤ deg.toInt ∧ deg.toInt ≤ 1073741823

instance (deg : Int32) : Decidable (Moderate deg) :=
  inferInstanceAs (Decidable (_ ∧ _))

lemma inReach_of_moderate {target v : Int32} (ht : Moderate target) (hv : Moderate v) :
    InReach target v := by
  unfold Moderate at ht hv
  unfold InReach
  omega

lemma isSteeringRange_moderate : IsSteeringRange Moderate where
  turned ht hv := (DriverModel.move_mem (by decide) (by decide) hv ht).1
  scripted scenario s hs deg hdeg := by
    have hall : (scenario.stimuli.filterMap (·.2.target?)).all (Moderate ·) = true := by
      cases scenario <;> decide
    have hmem : deg ∈ scenario.stimuli.filterMap (·.2.target?) :=
      List.mem_filterMap.mpr ⟨s, hs, hdeg⟩
    exact of_decide_eq_true (List.all_eq_true.mp hall deg hmem)

lemma IsSteeringRange.zero {P : Int32 → Prop} (hP : IsSteeringRange P) : P 0 :=
  hP.scripted .nominal (400, .setSteering 0) (by decide) 0 rfl

variable {P : Int32 → Prop}

/-! ## The driver -/

namespace DriverModel

/-- A driver in one of the four phases, with its steering value and target in a range. -/
structure Steers (P : Int32 → Prop) (d : DriverModel) : Prop where
  counter_lt : d.steerCounter.toNat < 4
  steering_mem : P d.steering
  target_mem : P d.steeringTarget

lemma steers_start (hzero : P 0) : Steers P {} :=
  ⟨by decide, hzero, hzero⟩

lemma Steers.next {d : DriverModel} (hP : IsSteeringRange P) (h : d.Steers P) :
    d.next.1.Steers P := by
  cases hfrozen : d.frozen with
  | true =>
    rw [next_of_frozen hfrozen]
    exact h
  | false =>
    obtain ⟨hcounter, -, hsteering, -, htarget, -⟩ := next_of_running hfrozen h.counter_lt
    refine ⟨?_, ?_, htarget ▸ h.target_mem⟩
    · rw [hcounter]
      exact Nat.mod_lt _ (by decide)
    · rw [hsteering]
      split
      · exact hP.turned h.target_mem h.steering_mem
      · exact h.steering_mem

end DriverModel

namespace Simulation

variable {s s' : Simulation} {z : ZoneCalibration}

/-! ## What a simulation aims at -/

/-- The driver, and whatever is yet to happen to it, keep to a range. -/
structure Steers (P : Int32 → Prop) (s : Simulation) : Prop where
  driver : s.driver.Steers P
  pending : ∀ e ∈ s.schedule.pending, ∀ deg ∈ e.stimulus.target?, P deg
  queue : ∀ c ∈ s.queue, ∀ deg ∈ c.target?, P deg

lemma steers_of_ofCalibration (hP : IsSteeringRange P) (h : ofCalibration z = .ok s) :
    s.Steers P := by
  obtain ⟨zone, -, rfl⟩ := eq_of_ofCalibration h
  exact ⟨DriverModel.steers_start hP.zero, nofun, nofun⟩

/-- Stimuli from outside neither schedule others nor let commands wait. -/
lemma Steers.apply (h : s.Steers P) (stimulus : Stimulus)
    (haim : ∀ deg ∈ stimulus.target?, P deg) : (s.apply stimulus).value.Steers P := by
  obtain ⟨hdriver, hpending, hqueue⟩ := h
  cases stimulus with
  | setSteering deg =>
    exact ⟨⟨hdriver.counter_lt, hdriver.steering_mem, haim deg rfl⟩, hpending, hqueue⟩
  | setBrake pct =>
    exact ⟨⟨hdriver.counter_lt, hdriver.steering_mem, hdriver.target_mem⟩, hpending, hqueue⟩
  | freezeCommands frozen =>
    exact ⟨⟨hdriver.counter_lt, hdriver.steering_mem, hdriver.target_mem⟩, hpending, hqueue⟩
  | emergencyStop active => cases active <;> exact ⟨hdriver, hpending, hqueue⟩
  | setVehicleState state => exact ⟨hdriver, hpending, hqueue⟩
  | injectSensorFault fault duration => exact ⟨hdriver, hpending, hqueue⟩
  | clearSensorFault => exact ⟨hdriver, hpending, hqueue⟩

lemma Steers.applyAll {stimuli : List Stimulus} (h : s.Steers P)
    (haim : ∀ stimulus ∈ stimuli, ∀ deg ∈ stimulus.target?, P deg) :
    (applyAll stimuli s).value.Steers P := by
  induction stimuli generalizing s with
  | nil => exact h
  | cons stimulus rest ih =>
    obtain ⟨hfirst, hrest⟩ := List.forall_mem_cons.mp haim
    exact ih (h.apply stimulus hfirst) hrest

/-- What is due was scheduled. -/
lemma Steers.prepare (h : s.Steers P) : s.prepare.value.Steers P := by
  have hdue : ∀ stimulus ∈ (s.schedule.takeDue s.cycle).2, ∀ deg ∈ stimulus.target?, P deg := by
    intro stimulus hmem
    obtain ⟨e, he, rfl⟩ := List.mem_map.mp hmem
    exact h.pending e (List.takeWhile_subset _ (List.mem_of_mem_take he))
  exact Steers.applyAll ⟨h.driver, fun e he => h.pending e (List.mem_of_mem_drop he), h.queue⟩ hdue

lemma Steers.tick (hP : IsSteeringRange P) (h : s.Steers P) : s.tick.value.1.Steers P := by
  have hdue : s.openCycle.value.applyDue.value.Steers P := h.prepare
  rw [tick_value]
  generalize s.openCycle.value.applyDue.value = due at hdue
  obtain ⟨telemetry, hemit⟩ := emit_eq due.control.value (due.zone.perform due.call).report
  dsimp only
  rw [hemit]
  exact ⟨hdue.driver.next hP, hdue.pending, hdue.queue⟩

/-- A command sets its target, or schedules stimuli that keep to every range. -/
lemma Steers.execute (hP : IsSteeringRange P) (h : s.Steers P) {c : Command}
    (haim : ∀ deg ∈ c.target?, P deg) : (s.execute c).value.1.Steers P := by
  -- the commands that schedule anything do nothing else
  have hwith {schedule : Schedule}
      (hpending : ∀ e ∈ schedule.pending, ∀ deg ∈ e.stimulus.target?, P deg) :
      Steers P { s with schedule } := ⟨h.driver, hpending, h.queue⟩
  obtain ⟨id, request⟩ := c
  cases request with
  | setSteering deg => exact h.apply (.setSteering deg) haim
  | setBrake pct => exact h.apply (.setBrake pct) nofun
  | emergencyStop active => exact h.apply (.emergencyStop active) nofun
  | setVehicleState state => exact h.apply (.setVehicleState state) nofun
  | clearSensorFault => exact h.apply .clearSensorFault nofun
  | freezeCommands frozen => exact h.apply (.freezeCommands frozen) nofun
  | injectSensorFault fault duration =>
    show Steers P (s.scheduleFault _ fault duration).1
    rw [scheduleFault_fst]
    refine hwith fun e he => ?_
    rcases Schedule.schedule_cases s.schedule s.cycle (.injectSensorFault fault duration) s.cycle
      with ⟨-, -, -, hpending⟩ | ⟨-, -, hpending⟩
    · rw [hpending, (Schedule.perm_insert _ _).mem_iff, List.mem_cons] at he
      rcases he with rfl | he
      · exact nofun
      · exact h.pending e he
    · exact h.pending e (hpending ▸ he)
  | runScenario scenario =>
    show Steers P (s.runScenario _ scenario).value.1
    rw [runScenario_fst]
    refine hwith fun e he => ?_
    rcases Schedule.mem_pending_scheduleAll he with hold | hnew
    · exact h.pending e hold
    · obtain ⟨entry, hentry, rfl⟩ := List.mem_map.mp hnew
      exact hP.scripted scenario entry hentry
  | restart a =>
    show Steers P (s.restart _ a).value.1
    rw [restart_fst]
    exact ⟨h.driver, h.pending, h.queue⟩
  | _ => exact ⟨h.driver, h.pending, h.queue⟩

lemma Steers.executeAll (hP : IsSteeringRange P) {cs : List Command} (h : s.Steers P)
    (haim : ∀ c ∈ cs, ∀ deg ∈ c.target?, P deg) : (executeAll cs s).value.Steers P := by
  induction cs generalizing s with
  | nil => exact h
  | cons c cs ih =>
    obtain ⟨hfirst, hrest⟩ := List.forall_mem_cons.mp haim
    have hnext := h.execute hP hfirst
    exact ih ⟨hnext.driver, hnext.pending, hnext.queue⟩ hrest

/-- The steering target that an operation brings in. -/
def Operation.target? : Operation → Option Int32
  | .apply stimulus => stimulus.target?
  | .execute c => c.target?
  | .enqueue c => c.target?
  | _ => none

/-- Every operation keeps to a range that its target is in. -/
theorem Steers.operate (hP : IsSteeringRange P) (h : s.Steers P) {op : Operation}
    (haim : ∀ deg ∈ op.target?, P deg) : (s.operate op).Steers P := by
  cases op with
  | tick => exact h.tick hP
  | apply stimulus => exact h.apply stimulus haim
  | execute c => exact h.execute hP haim
  | enqueue c =>
    show ((s.enqueue c).getD s).Steers P
    unfold enqueue
    split
    · refine ⟨h.driver, h.pending, fun c' hc' => ?_⟩
      rcases List.mem_append.mp hc' with hold | hnew
      · exact h.queue c' hold
      · obtain rfl := List.mem_singleton.mp hnew
        exact haim
    · exact h
  | processQueue => exact Steers.executeAll hP ⟨h.driver, h.pending, nofun⟩ h.queue
  | takeReplies => exact ⟨h.driver, h.pending, h.queue⟩

theorem Steers.operateAll (hP : IsSteeringRange P) {ops : List Operation} (h : s.Steers P)
    (haim : ∀ op ∈ ops, ∀ deg ∈ op.target?, P deg) : (s.operateAll ops).Steers P := by
  induction ops generalizing s with
  | nil => exact h
  | cons op ops ih =>
    obtain ⟨hfirst, hrest⟩ := List.forall_mem_cons.mp haim
    exact ih (h.operate hP hfirst) hrest

/-! ## Ticks -/

/-- A tick is undefined in a fourth step of the driver that is beyond reach. -/
theorem tick?_eq (h : s.Steers P) :
    let d := s.prepare.value.driver
    s.tick? =
      if d.frozen = false ∧ d.steerCounter.toNat = 3 ∧ ¬ InReach d.steeringTarget d.steering then
        (fun _ => none) <$> s.prepare
      else some <$> s.tick := by
  intro d
  unfold tick?
  rw [DriverModel.next?_eq h.prepare.driver.counter_lt]
  split
  · rfl
  · rfl

/-- So is a tick after any run. -/
theorem tick?_eq_none_iff (h : ofCalibration z = .ok s) (ops : List Operation) :
    let d := (s.operateAll ops).prepare.value.driver
    (s.operateAll ops).tick?.value = none ↔
      d.frozen = false ∧ d.steerCounter.toNat = 3 ∧ ¬ InReach d.steeringTarget d.steering := by
  intro d
  have hsteers : (s.operateAll ops).Steers fun _ => True :=
    (steers_of_ofCalibration isSteeringRange_all h).operateAll isSteeringRange_all
      fun _ _ _ _ => trivial
  rw [tick?_eq hsteers]
  split
  · next hfar => exact iff_of_true rfl hfar
  · next hnear => exact iff_of_false nofun hnear

/-! ## Runs -/

/-- The simulation after an operation, where that is defined. -/
def operate? (s : Simulation) : Operation → Option Simulation
  | .tick => s.tick?.value.map (·.1)
  | op => some (s.operate op)

/-- The simulation after operations in order, where that is defined. -/
def operateAll? (s : Simulation) (ops : List Operation) : Option Simulation :=
  ops.foldlM operate? s

lemma operate_of_operate? {op : Operation} (h : s.operate? op = some s') : s' = s.operate op := by
  cases op with
  | tick =>
    obtain ⟨result, hresult, rfl⟩ := Option.map_eq_some_iff.mp h
    unfold tick? at hresult
    split at hresult
    · exact congrArg Prod.fst (Option.some.inj hresult).symm
    · exact nomatch hresult
  | _ => exact (Option.some.inj h).symm

/-- Where a run is defined, it goes where words that wrap around go. -/
theorem operateAll_of_operateAll? {ops : List Operation} (h : s.operateAll? ops = some s') :
    s' = s.operateAll ops := by
  induction ops generalizing s with
  | nil => exact (Option.some.inj h).symm
  | cons op ops ih =>
    obtain ⟨s₁, hop, hops⟩ := Option.bind_eq_some_iff.mp h
    obtain rfl := operate_of_operate? hop
    exact ih hops

/-- Among moderate targets every operation is defined. -/
lemma operate?_eq (h : s.Steers Moderate) (op : Operation) :
    s.operate? op = some (s.operate op) := by
  cases op with
  | tick =>
    have hdriver := h.prepare.driver
    have hreach := inReach_of_moderate hdriver.target_mem hdriver.steering_mem
    show s.tick?.value.map (·.1) = _
    rw [tick?_eq h, if_neg fun hfar => hfar.2.2 hreach]
    rfl
  | _ => rfl

/-- A run whose steering targets are all moderate is defined to its end. -/
theorem operateAll?_eq (h : ofCalibration z = .ok s) {ops : List Operation}
    (hmoderate : ∀ op ∈ ops, ∀ deg ∈ op.target?, Moderate deg) :
    s.operateAll? ops = some (s.operateAll ops) := by
  have hsteers := steers_of_ofCalibration isSteeringRange_moderate h
  clear h
  -- from here on of any simulation that aims at moderate targets, not only of one at its start
  induction ops generalizing s with
  | nil => rfl
  | cons op ops ih =>
    obtain ⟨hfirst, hrest⟩ := List.forall_mem_cons.mp hmoderate
    show (s.operate? op).bind _ = _
    rw [operate?_eq hsteers]
    exact ih hrest (hsteers.operate isSteeringRange_moderate hfirst)

/-- A target at the end of the words, asked for from below zero, ends a run at the driver's turn. -/
example : ∃ s, ofCalibration {} = .ok s ∧
    s.operateAll? (.apply (.setSteering (-1)) :: List.replicate 4 .tick ++
      .apply (.setSteering 2147483647) :: List.replicate 4 .tick) = none :=
  ⟨_, rfl, by decide +kernel⟩

end Simulation
end FrontZone
