import FrontZone.Proofs.Governor.Run
/-!
# What a cycle does

Both kinds of cycle end in `finish`, which leaves the state as it found it up to the line pattern
and the cutoff broadcast. The equations here name the whole state after a cycle, so that what a
cycle does to one part of the state is read off and `cycle` is not taken apart again.
-/

namespace FrontZone
namespace Governor

variable {c : Calibration} {s : State} {k : Call}

/-! ## Sensing -/

/-- Sensing touches no output. -/
lemma sense_outputs (c : Calibration) (inputs : CycleInputs) (rig : Rig) :
    (sense c inputs rig).1.lines = rig.lines ∧
      (sense c inputs rig).1.lineWrites = rig.lineWrites ∧
      (sense c inputs rig).1.lastDuty = rig.lastDuty ∧
      (sense c inputs rig).1.dutyWrites = rig.dutyWrites := by
  unfold sense
  split
  · unfold Rig.read
    simp only
    split
    · exact ⟨rfl, rfl, rfl, rfl⟩
    · split <;> exact ⟨rfl, rfl, rfl, rfl⟩
  · exact ⟨rfl, rfl, rfl, rfl⟩

/-! ## Driving -/

/-- A rig whose drive output has been written to once since it was as `before`, with this duty. The
count of writes stays at its largest. -/
structure DrivenOnce (before after : Rig) (duty : UInt16) : Prop where
  lastDuty_eq : after.lastDuty = some duty
  dutyWrites_eq : after.dutyWrites.toNat = min 4294967295 (before.dutyWrites.toNat + 1)

/-- Writing lines leaves the drive output alone. -/
lemma writeLines_duty (rig : Rig) (writes : List (DisableLine × Bool)) :
    (rig.writeLines writes).lastDuty = rig.lastDuty ∧
      (rig.writeLines writes).dutyWrites = rig.dutyWrites := by
  induction writes generalizing rig with
  | nil => exact ⟨rfl, rfl⟩
  | cons w ws ih => exact ih (rig.writeLine w.1 w.2)

/-- What a cycle decided is carried out with one write to the drive, wherever it was sensed. -/
lemma drivenOnce_onRig (o : Outcome) (c : Calibration) (inputs : CycleInputs) (rig : Rig) :
    DrivenOnce rig (o.onRig (sense c inputs rig).1) o.report.duty := by
  obtain ⟨-, -, -, hsensed⟩ := sense_outputs c inputs rig
  obtain ⟨-, hcount⟩ := writeLines_duty (sense c inputs rig).1 o.lineWrites
  refine ⟨rfl, ?_⟩
  rw [← hsensed, ← hcount]
  exact toNat_countUp32 _

/-! ## Checking -/

/-- The range check accepts exactly the commands in range. -/
lemma isSome_accept_iff {r : PositionRange} {command : Int32} :
    (r.accept command).isSome ↔ r.contains command := by
  simp [PositionRange.accept]

/-- Whether two positions are so far apart that one is no plausible reference for the other. -/
def Far (c : Calibration) (a b : Int32) : Prop :=
  c.plausibilityThreshold.toInt < distance a b

instance (c : Calibration) (a b : Int32) : Decidable (Far c a b) :=
  inferInstanceAs (Decidable (_ < _))

lemma threshold_toInt_nonneg (hv : c.IsValid) : 0 ≤ c.plausibilityThreshold.toInt := by
  have h := hv.threshold_nonneg
  rwa [Int32.le_iff_toInt_le, Int32.toInt_zero] at h

/-- The plausibility monitor counts a command that is far from its reference and starts over at any
other. -/
lemma check_eq (hv : c.IsValid) (p : Plausibility) (command reference : Int32) :
    p.check command reference c.plausibilityThreshold =
      if Far c command reference then ⟨countUp16 p.count⟩ else ⟨0⟩ := by
  have hthreshold := threshold_toInt_nonneg hv
  -- for a threshold that is not negative the word and its magnitude compare alike
  have hiff : distance command reference > c.plausibilityThreshold.toInt.natAbs ↔
      Far c command reference := by
    unfold Far
    omega
  unfold Plausibility.check
  simp only [hiff]

/-! ## Outputs -/

/-- The outputs of a cycle change only the lines and the broadcast. -/
lemma finish_state (c : Calibration) (s : State) (t : LatchTransition) (override accepts : Bool)
    (events : List (Dtc × EventStatus)) (notes : List LogEntry) :
    (finish c s t override accepts events notes).state =
      { s with lines := wantedLines c s, cutoff := (s.tickCutoff accepts).1 } := rfl

/-! ## The two kinds of cycle -/

/-- What a governed cycle of calibration `c` finds out about its inputs. -/
def Call.findings (k : Call) (c : Calibration) (s : State) : Findings :=
  examine c s k.inputs.command (k.reading c)

lemma Call.outcome_of_override (h : k.inputs.isOverride) :
    k.outcome c s = heldCycle c s (!k.services.bus.rejects) := by
  rw [Call.outcome, cycle, if_pos h]

lemma Call.outcome_of_governed (h : ¬ k.inputs.isOverride) :
    k.outcome c s = governedCycle c s k.inputs.command (k.reading c) (!k.services.bus.rejects) := by
  rw [Call.outcome, cycle, if_neg h]

/-- A held cycle moves the position to the safe value. -/
lemma state_of_override (h : k.inputs.isOverride) :
    (k.outcome c s).state =
      { s with
        position := c.safeValue
        lines := wantedLines c s
        cutoff := (s.tickCutoff (!k.services.bus.rejects)).1 } := by
  rw [Call.outcome_of_override h, heldCycle, finish_state]
  rfl

/-- A governed cycle arrives at the state that its findings lead to. -/
lemma state_of_governed (h : ¬ k.inputs.isOverride) :
    (k.outcome c s).state =
      let next := (governedState c s (k.findings c s)).1
      { next with
        lines := wantedLines c next
        cutoff := (next.tickCutoff (!k.services.bus.rejects)).1 } := by
  rw [Call.outcome_of_governed h, governedCycle, finish_state]
  rfl

/-- The state that findings lead to, part by part. -/
lemma governedState_eq (c : Calibration) (s : State) (f : Findings) :
    (governedState c s f).1 =
      { s with
        position :=
          if (s.latch.step (f.condition c)).1.isEngaged then c.safeValue
          else nextPosition c s.position f.accepted (f.isStale c)
        plausibility := f.plausibility
        staleness := f.staleness
        latch := (s.latch.step (f.condition c)).1
        timeoutActive := if c.failSafe.latchesTimeout then s.timeoutActive else f.isStale c
        episode := nextEpisode s.episode (s.latch.step (f.condition c)).2
        cutoff :=
          if (s.latch.step (f.condition c)).2.arms then s.cutoff.map Cutoff.arm
          else s.cutoff } := rfl

lemma transition_of_governed (h : ¬ k.inputs.isOverride) :
    (k.outcome c s).report.transition = (s.latch.step ((k.findings c s).condition c)).2 := by
  rw [Call.outcome_of_governed h]
  rfl

/-- Whatever the cycle, it reports the state after it. -/
lemma report_eq_state (c : Calibration) (s : State) (k : Call) :
    let o := k.outcome c s
    o.report.position = o.state.position ∧
      o.report.duty = mapToDrive o.state.position c.range c.output ∧
      o.report.fault = o.state.fault ∧
      o.report.disableLevel = o.state.latch.disableLevel ∧
      o.report.latch = o.state.latch.state := by
  by_cases h : k.inputs.isOverride
  · rw [Call.outcome_of_override h]
    exact ⟨rfl, rfl, rfl, rfl, rfl⟩
  · rw [Call.outcome_of_governed h]
    exact ⟨rfl, rfl, rfl, rfl, rfl⟩

/-- Every cycle writes from the pattern it remembers to the one it then remembers. -/
lemma lineWrites_eq (c : Calibration) (s : State) (k : Call) :
    (k.outcome c s).lineWrites = LinePattern.writes s.lines (k.outcome c s).state.lines := by
  by_cases h : k.inputs.isOverride
  · rw [Call.outcome_of_override h]
    rfl
  · rw [Call.outcome_of_governed h]
    rfl

end Governor
end FrontZone
