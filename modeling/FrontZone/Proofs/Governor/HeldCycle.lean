import FrontZone.Proofs.Governor.CutoffSchedule
import FrontZone.Proofs.Governor.DisableLines
/-!
# What an override leaves alone

A cycle that forces the safe value shares its outputs with every other cycle, among them the disable
lines and the cutoff broadcast. That it writes no line is not in its code: it depends on every state
of a governor remembering the lines that its latch calls for (`linesKept_run`). Then the state keeps
everything but its position and a frame of a running broadcast, and the rig is written to once.
-/

namespace FrontZone

/-- Nothing has to be written to stay at a pattern. -/
lemma LinePattern.writes_self (p : LinePattern) : LinePattern.writes p p = [] := by
  unfold LinePattern.writes
  exact List.filterMap_eq_nil_iff.mpr fun line _ => if_pos rfl

namespace Governor

variable {c : Calibration} {s : State} {g : Governor} {k : Call}

/-! ## The lines remembered -/

/-- A state that remembers the lines it calls for. -/
def State.LinesKept (c : Calibration) (s : State) : Prop :=
  wantedLines c s = s.lines

lemma linesKept_initial (c : Calibration) : (State.initial c).LinesKept c := by
  unfold State.LinesKept wantedLines
  cases c.escalation <;> rfl

/-- Every cycle remembers the lines of the level at which it leaves the latch. -/
lemma linesKept_outcome (c : Calibration) (s : State) (k : Call) :
    (k.outcome c s).state.LinesKept c := by
  unfold State.LinesKept wantedLines
  cases hc : c.escalation with
  | disableLines => exact (lines_eq_ofLevel hc s k).symm
  | cutoffBroadcast count => rfl

theorem linesKept_run {start : Option Calibration} (hg : init start = .ok g) (rs : List Request) :
    (g.run rs).Satisfies State.LinesKept :=
  satisfies_run (fun {c} _ => linesKept_initial c) (fun {c s} _ _ k => linesKept_outcome c s k)
    (satisfies_of_init (fun {c} _ => linesKept_initial c) hg) rs

/-! ## The broadcast -/

lemma tickCutoff_fst (s : State) (accepts : Bool) :
    (s.tickCutoff accepts).1 = s.cutoff.map fun n => (n.tick accepts).1 := by
  unfold State.tickCutoff
  cases s.cutoff <;> rfl

/-- A cycle takes one frame from a broadcast that has some left. -/
lemma toNat_cutoffRemaining_tick (s : State) (accepts : Bool) :
    ({ s with cutoff := s.cutoff.map fun n => (n.tick accepts).1 } : State).cutoffRemaining.toNat =
      s.cutoffRemaining.toNat - 1 := by
  unfold State.cutoffRemaining
  cases s.cutoff with
  | none => rfl
  | some n => exact n.toNat_remaining_tick accepts

/-- A frame is due exactly if some are left. -/
lemma tickCutoff_ne_idle_iff (s : State) (accepts : Bool) :
    (s.tickCutoff accepts).2 ≠ .idle ↔ s.cutoffRemaining ≠ 0 := by
  unfold State.tickCutoff State.cutoffRemaining
  cases s.cutoff with
  | none => simp
  | some n =>
    show (n.tick accepts).2 ≠ .idle ↔ n.remaining ≠ 0
    rw [Cutoff.tick_ne_idle_iff, Cutoff.isSending, decide_eq_true_iff]

/-- What becomes of the frame that is due, if there is one. -/
lemma transmits_of_mem {n : Cutoff} (hn : n ∈ s.cutoff) (b : Bus) :
    Transmits (s.cutoffRemaining ≠ 0) n.failedSends (n.tick (!b.rejects)).1.failedSends b
      (if s.cutoffRemaining ≠ 0 then b.transmit .motorCutoff else b) := by
  have hdue : s.cutoffRemaining ≠ 0 ↔ n.isSending := by
    unfold State.cutoffRemaining
    rw [hn, Cutoff.isSending, decide_eq_true_iff]
    rfl
  have hbroadcast : b.broadcast n =
      if s.cutoffRemaining ≠ 0 then b.transmit .motorCutoff else b :=
    if_congr hdue.symm rfl rfl
  rw [← hbroadcast]
  exact n.transmits_tick b hdue

/-! ## The held cycle -/

section HeldCycle
variable (c) (s) (accepts : Bool)

lemma heldCycle_state (h : s.LinesKept c) :
    (heldCycle c s accepts).state =
      { s with
        position := c.safeValue
        cutoff := s.cutoff.map fun n => (n.tick accepts).1 } := by
  have hwanted : wantedLines c { s with position := c.safeValue } = s.lines := h
  rw [heldCycle, finish_state, hwanted, ← tickCutoff_fst]
  rfl

lemma heldCycle_onRig (h : s.LinesKept c) (rig : Rig) :
    (heldCycle c s accepts).onRig rig =
      rig.writeDuty (mapToDrive c.safeValue c.range c.output) := by
  have hwanted : wantedLines c { s with position := c.safeValue } = s.lines := h
  show (rig.writeLines (LinePattern.writes s.lines (wantedLines c _))).writeDuty _ = _
  rw [hwanted, LinePattern.writes_self]
  rfl

lemma heldCycle_sendsCutoff :
    (heldCycle c s accepts).sendsCutoff = decide (s.cutoffRemaining ≠ 0) :=
  decide_eq_decide.mpr (tickCutoff_ne_idle_iff s accepts)

lemma heldCycle_bus (services : Services) :
    ((heldCycle c s accepts).onServices services).bus =
      if s.cutoffRemaining ≠ 0 then services.bus.transmit .motorCutoff else services.bus := by
  show (if (heldCycle c s accepts).sendsCutoff then _ else _) = _
  rw [heldCycle_sendsCutoff]
  simp only [decide_eq_true_eq]

lemma heldCycle_report :
    (heldCycle c s accepts).report =
      { position := c.safeValue
        duty := mapToDrive c.safeValue c.range c.output
        fault := s.fault
        disableLevel := s.latch.disableLevel
        latch := s.latch.state
        transition := .none
        cutoffActive := s.cutoff.isSome && (s.cutoffRemaining ≠ 0 || s.fault ≠ .noFault)
        overrideActive := true } := by
  show CycleReport.mk _ _ _ _ _ _
    (s.cutoff.isSome && ((heldCycle c s accepts).sendsCutoff || _)) _ = _
  rw [heldCycle_sendsCutoff]
  rfl

end HeldCycle

/-- A cycle that forces the safe value does not ask the sensor. -/
lemma sense_of_override {inputs : CycleInputs} (h : inputs.isOverride) (rig : Rig) :
    (sense c inputs rig).1 = rig := by
  unfold sense readsSensor
  rw [h]
  rfl

/-! ## Overrides -/

/-- An update that found a governor with calibration `c` in state `s` and did nothing but drive the
actuator to the safe value and send the frame that was due. -/
structure OnlyDrives (c : Calibration) (s : State) (k : Call) (u : Update) : Prop where
  /-- The state is as it was, but for its position and the broadcast. -/
  state_eq : u.governor.active = some ⟨c,
    { s with
      position := c.safeValue
      cutoff := s.cutoff.map fun n => (n.tick (!k.services.bus.rejects)).1 }⟩
  /-- A broadcast that runs has one frame less to go. -/
  remaining_eq : ∀ a ∈ u.governor.active,
    a.state.cutoffRemaining.toNat = s.cutoffRemaining.toNat - 1
  /-- The drive is written to once; the sensor is not read and no line is written. -/
  rig_eq : u.rig = k.rig.writeDuty (mapToDrive c.safeValue c.range c.output)
  driven_once : DrivenOnce k.rig u.rig (mapToDrive c.safeValue c.range c.output)
  kept_eq : u.rig = { k.rig with lastDuty := u.rig.lastDuty, dutyWrites := u.rig.dutyWrites }
  events_eq : u.services.events = k.services.events
  bus_eq : u.services.bus =
    if s.cutoffRemaining ≠ 0 then k.services.bus.transmit .motorCutoff else k.services.bus
  /-- What becomes of the frame that was due, if there was one. -/
  transmits : ∀ n ∈ s.cutoff,
    Transmits (s.cutoffRemaining ≠ 0) n.failedSends
      (n.tick (!k.services.bus.rejects)).1.failedSends k.services.bus u.services.bus
  report_eq : u.report = .ok
    { position := c.safeValue
      duty := mapToDrive c.safeValue c.range c.output
      fault := s.fault
      disableLevel := s.latch.disableLevel
      latch := s.latch.state
      transition := .none
      cutoffActive := s.cutoff.isSome && (s.cutoffRemaining ≠ 0 || s.fault ≠ .noFault)
      overrideActive := true }

/-- Wherever a governor has got to, an emergency stop or a vehicle state that demands the safe
output makes its update drive the actuator there and leave everything else alone. -/
theorem override_only_drives {start : Option Calibration} (hg : init start = .ok g)
    (rs : List Request) (hact : (g.run rs).active = some ⟨c, s⟩)
    (hk : k.inputs.emergencyStop = true ∨ k.inputs.vehicleState = .safeStop ∨
      k.inputs.vehicleState = .shutdown) :
    OnlyDrives c s k ((g.run rs).perform k) := by
  have hoverride : k.inputs.isOverride := by
    unfold CycleInputs.isOverride
    rcases hk with hstop | hstate | hstate
    · rw [hstop]
      rfl
    · rw [hstate]
      exact Bool.or_true _
    · rw [hstate]
      exact Bool.or_true _
  obtain ⟨-, hkept⟩ := linesKept_run hg rs c s hact
  have hrig := heldCycle_onRig c s (!k.services.bus.rejects) hkept k.rig
  have hbus := heldCycle_bus c s (!k.services.bus.rejects) k.services
  rw [perform_of_active hact, Call.outcome_of_override hoverride, sense_of_override hoverride,
    hrig, heldCycle_state c s _ hkept, heldCycle_report]
  refine ⟨rfl, ?_, rfl, ⟨rfl, toNat_countUp32 k.rig.dutyWrites⟩, rfl, rfl, hbus, fun n hn => ?_, rfl⟩
  · intro a ha
    obtain rfl := Option.some.inj ha
    exact toNat_cutoffRemaining_tick s _
  · dsimp only
    rw [hbus]
    exact transmits_of_mem hn k.services.bus

/-- In the second episode of a steering governor the primary line is asserted, and in the first of a
brake governor nine frames are left: an emergency stop writes no line, a shutdown sends one frame.
-/
theorem stop_and_shutdown_only_drive :
    let call (command : Int32) : Call := ⟨{ command }, .scripted 0, {}⟩
    let quick : Calibration := { Calibration.steering with latchClearCycles := 1 }
    let steering : Governor := ⟨some ⟨quick, .initial quick⟩⟩
    let episodes : List Request := [1000, 0, 1000].map (.update ∘ call)
    let stop : Call := ⟨{ command := 10, emergencyStop := true }, .scripted 0, {}⟩
    let brake : Governor := ⟨some ⟨.brake, .initial .brake⟩⟩
    let shutdown : Call := ⟨{ command := 10, vehicleState := .shutdown }, .scripted 0, {}⟩
    init (some quick) = .ok steering ∧ init (some .brake) = .ok brake ∧
      (∃ s, (steering.run episodes).active = some ⟨quick, s⟩ ∧ s.lines = ⟨true, false⟩ ∧
        OnlyDrives quick s stop ((steering.run episodes).perform stop)) ∧
      ∃ s, (brake.run [.update (call 1000)]).active = some ⟨.brake, s⟩ ∧
        s.cutoffRemaining = 9 ∧
        OnlyDrives .brake s shutdown ((brake.run [.update (call 1000)]).perform shutdown) := by
  intro call quick steering episodes stop brake shutdown
  have hsteering : init (some quick) = .ok steering := rfl
  have hbrake : init (some .brake) = .ok brake := rfl
  refine ⟨hsteering, hbrake, ⟨_, rfl, by decide +kernel, ?_⟩, ⟨_, rfl, by decide +kernel, ?_⟩⟩
  · exact override_only_drives hsteering episodes rfl (Or.inl rfl)
  · exact override_only_drives hbrake [.update (call 1000)] rfl (Or.inr (Or.inr rfl))

end Governor
end FrontZone
