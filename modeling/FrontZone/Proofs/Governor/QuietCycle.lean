import FrontZone.Proofs.Governor.Detection
/-!
# Cycles without a fault

A governor is quiet as long as it has never latched a fault and reports no stale command.
`quiet_outcome` says what keeps it so for one more cycle, namely a reference, a command in range and
two monitors short of their thresholds, and what such a cycle does: it follows the command and
reports nothing.
-/

namespace FrontZone

/-! ## The monitors -/

/-- A command that agrees with the reference ends the disagreement. -/
lemma Plausibility.check_of_near (p : Plausibility) {command reference threshold : Int32}
    (h : distance command reference ≤ threshold.toInt.natAbs) :
    p.check command reference threshold = ⟨0⟩ :=
  if_neg (Nat.not_lt.mpr h)

/-- A sample lengthens the disagreement by one at most. -/
lemma Plausibility.count_check_le (p : Plausibility) (command reference threshold : Int32) :
    (p.check command reference threshold).count.toNat ≤ p.count.toNat + 1 := by
  unfold Plausibility.check
  split
  · rw [toNat_countUp16]
    omega
  · exact Nat.zero_le _

/-- The command seen last is the one taken in last. -/
lemma Staleness.lastCommand_observe (s : Staleness) (command : Int32) :
    (s.observe command).lastCommand = some command := by
  unfold Staleness.observe
  split
  · next hsame => exact hsame
  · rfl

/-- A new command starts the count over. -/
lemma Staleness.observe_of_ne (s : Staleness) {command : Int32}
    (h : s.lastCommand ≠ some command) : (s.observe command).count.toNat = 1 := by
  unfold Staleness.observe
  rw [if_neg h]
  rfl

/-- A command is counted up by one at most. -/
lemma Staleness.count_observe_le (s : Staleness) (command : Int32) :
    (s.observe command).count.toNat ≤ s.count.toNat + 1 := by
  unfold Staleness.observe
  split
  · rw [toNat_countUp16]
    omega
  · exact Nat.le_add_left 1 _

namespace Governor

variable {c : Calibration} {s : State} {k : Call}

/-! ## Quiet cycles -/

/-- A state in which no fault is latched or ever was and no stale command is reported. -/
structure State.Quiet (s : State) : Prop where
  latch_eq : s.latch.state = .normal
  level_eq : s.latch.disableLevel = 0
  timeout_eq : s.timeoutActive = false

lemma quiet_initial (c : Calibration) : (State.initial c).Quiet :=
  ⟨rfl, rfl, rfl⟩

/-- Without a condition the latch does not move. -/
lemma State.Quiet.step_none (h : s.Quiet) : s.latch.step none = (s.latch, .none) := by
  unfold Latch.step
  rw [h.latch_eq]

lemma State.Quiet.isEngaged_eq (h : s.Quiet) : s.latch.isEngaged = false := by
  unfold Latch.isEngaged
  rw [h.latch_eq]
  rfl

lemma State.Quiet.fault_eq (h : s.Quiet) : s.fault = .noFault := by
  unfold State.fault
  rw [h.isEngaged_eq, h.timeout_eq]
  rfl

/-- A governor that stays quiet without a condition reports nothing. -/
lemma State.Quiet.events_eq (h : s.Quiet) (ho : ¬ k.inputs.isOverride)
    (hcondition : (k.findings c s).condition c = none) (hnext : (k.outcome c s).state.Quiet) :
    (k.outcome c s).events = [] := by
  have htimeout : (k.outcome c s).state.timeoutActive = s.timeoutActive := by
    rw [hnext.timeout_eq, h.timeout_eq]
  rw [Call.outcome_of_governed ho] at htimeout ⊢
  show timeoutEvents c s.timeoutActive
      (governedCycle c s k.inputs.command (k.reading c)
        (!k.services.bus.rejects)).state.timeoutActive ++
    transitionEvents c s.episode (s.latch.step ((k.findings c s).condition c)).2 = []
  rw [htimeout, hcondition, h.step_none, timeoutEvents, if_pos rfl]
  rfl

/-- With a reference and an accepted command, the condition is left to the monitors. -/
lemma condition_of_both {reference command : Int32}
    (hreference : referencePosition c s (k.reading c) = some reference)
    (haccepted : (k.findings c s).accepted = some command) :
    (k.findings c s).condition c =
      if c.plausibilityDebounceCycles ≤ (k.findings c s).plausibility.count then
        some .plausibility
      else if (k.findings c s).isStale c && c.failSafe.latchesTimeout then some .cmdTimeout
      else none := by
  have hhere : (k.findings c s).reference = some reference := hreference
  unfold Findings.condition Findings.failsPlausibility Plausibility.isConfirmed
  rw [hhere, haccepted]
  simp

/-- A command in range, with a reference, is no fault while both monitors are short of their
thresholds. -/
lemma findings_of_content {reference : Int32}
    (hreference : referencePosition c s (k.reading c) = some reference)
    (haccepted : (k.findings c s).accepted = some (c.toInternal k.inputs.command))
    (hagreed : (k.findings c s).plausibility.count.toNat < c.plausibilityDebounceCycles.toNat)
    (hfresh : (k.findings c s).staleness.count.toNat < c.cmdTimeoutCycles.toNat) :
    (k.findings c s).isStale c = false ∧ (k.findings c s).condition c = none := by
  have hstale : (k.findings c s).isStale c = false := by
    unfold Findings.isStale Staleness.isStale
    rw [decide_eq_false_iff_not, UInt16.not_le, UInt16.lt_iff_toNat_lt]
    exact hfresh
  refine ⟨hstale, ?_⟩
  rw [condition_of_both hreference haccepted, if_neg, hstale]
  · rfl
  · rw [UInt16.not_le, UInt16.lt_iff_toNat_lt]
    exact hagreed

/-- What a cycle without a fault does: it reports nothing to the event store, moves the position
toward the command under the slew limit, and the monitors have taken in the command. -/
structure Undisturbed (c : Calibration) (s : State) (command reference : Int32) (o : Outcome) :
    Prop where
  quiet : o.state.Quiet
  events_eq : o.events = []
  fault_eq : o.report.fault = .noFault
  latch_eq : o.report.latch = .normal
  level_eq : o.report.disableLevel = 0
  position_eq : o.state.position = rateLimit s.position command c.safeValue c.rateLimit
  duty_eq : o.report.duty = mapToDrive o.state.position c.range c.output
  plausibility_eq :
    o.state.plausibility = s.plausibility.check command reference c.plausibilityThreshold
  staleness_eq : o.state.staleness = s.staleness.observe command

/-- A quiet governor stays quiet as long as it has a reference and a command in range and both
monitors are short of their thresholds. -/
theorem quiet_outcome {reference command : Int32} (hs : s.Quiet) (ho : ¬ k.inputs.isOverride)
    (hreference : referencePosition c s (k.reading c) = some reference)
    (hcommand : c.toInternal k.inputs.command = command) (hrange : c.range.contains command)
    (hagreed : (s.plausibility.check command reference c.plausibilityThreshold).count.toNat <
      c.plausibilityDebounceCycles.toNat)
    (hfresh : (s.staleness.observe command).count.toNat < c.cmdTimeoutCycles.toNat) :
    Undisturbed c s command reference (k.outcome c s) := by
  subst hcommand
  have haccepted : (k.findings c s).accepted = some (c.toInternal k.inputs.command) :=
    (findings_accepted c s k).trans (if_pos hrange)
  have hplausibility := plausibility_of_both (k := k) hreference haccepted
  have hstaleness := staleness_of_accepted (k := k) haccepted
  obtain ⟨hstale, hcondition⟩ := findings_of_content hreference haccepted
    (by rwa [hplausibility]) (by rwa [hstaleness])
  -- the latch does not move and does not hold the position, which follows the command
  have hstate := state_of_governed (c := c) (s := s) ho
  rw [governedState_eq, hcondition, hs.step_none, hstale, hs.isEngaged_eq, haccepted] at hstate
  have hquiet : (k.outcome c s).state.Quiet := by
    rw [hstate]
    refine ⟨hs.latch_eq, hs.level_eq, ?_⟩
    show (if c.failSafe.latchesTimeout then s.timeoutActive else false) = false
    rw [hs.timeout_eq, ite_self]
  have hposition : (k.outcome c s).state.position =
      rateLimit s.position (c.toInternal k.inputs.command) c.safeValue c.rateLimit := by
    rw [hstate]
    dsimp only
    rw [if_neg Bool.false_ne_true]
    unfold nextPosition
    cases c.failSafe <;> rfl
  obtain ⟨-, hduty, hfault, hlevel, hlatch⟩ := report_eq_state c s k
  exact
    { quiet := hquiet
      events_eq := hs.events_eq ho hcondition hquiet
      fault_eq := hfault.trans hquiet.fault_eq
      latch_eq := hlatch.trans hquiet.latch_eq
      level_eq := hlevel.trans hquiet.level_eq
      position_eq := hposition
      duty_eq := hduty
      plausibility_eq := (congrArg State.plausibility hstate).trans hplausibility
      staleness_eq := (congrArg State.staleness hstate).trans hstaleness }

end Governor
end FrontZone
