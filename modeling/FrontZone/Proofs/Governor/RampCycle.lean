import FrontZone.Proofs.Governor.QuietCycle
/-!
# Cycles under a ramp

Where a stale command is answered with a ramp, it is reported and not latched. `ramp_outcome` says
what a cycle does as long as command and sensor have not disagreed for too long: it follows the
command or, once that is stale, walks back to the safe value, and leaves the latch alone. When they
have, `plausibility_outcome` says that the cycle latches, stale or not.
-/

namespace FrontZone
namespace Governor

variable {c : Calibration} {s : State} {k : Call} {rate command reference : Int32}

/-- What a cycle does that finds nothing to latch: it follows the command, or if that is stale the
ramp, which it then reports. -/
structure Unlatched (c : Calibration) (rate : Int32) (s : State) (command reference : Int32)
    (o : Outcome) : Prop where
  latch_eq : o.state.latch = s.latch
  report_latch_eq : o.report.latch = .normal
  level_eq : o.report.disableLevel = s.latch.disableLevel
  fault_eq : o.report.fault =
    if (s.staleness.observe command).isStale c.cmdTimeoutCycles then .cmdTimeout else .noFault
  position_eq : o.state.position =
    if (s.staleness.observe command).isStale c.cmdTimeoutCycles then
      rampToward s.position c.safeValue rate
    else rateLimit s.position command c.safeValue c.rateLimit
  report_position_eq : o.report.position = o.state.position
  duty_eq : o.report.duty = mapToDrive o.state.position c.range c.output
  plausibility_eq :
    o.state.plausibility = s.plausibility.check command reference c.plausibilityThreshold
  staleness_eq : o.state.staleness = s.staleness.observe command

/-- Under a ramp a command that is not stale is followed. -/
lemma nextPosition_of_ramp (hramp : c.failSafe = .ramp rate) (position command : Int32)
    (stale : Bool) :
    nextPosition c position (some command) stale =
      if stale then rampToward position c.safeValue rate
      else rateLimit position command c.safeValue c.rateLimit := by
  unfold nextPosition
  rw [hramp]
  cases stale <;> rfl

section Cycle
variable (hramp : c.failSafe = .ramp rate) (hopen : s.latch.state = .normal)
  (ho : ¬ k.inputs.isOverride)
  (hreference : referencePosition c s (k.reading c) = some reference)
  (hcommand : c.toInternal k.inputs.command = command) (hrange : c.range.contains command)
include hopen ho hreference hcommand hrange

include hramp in
/-- Under a ramp an open latch stays open as long as plausibility is not confirmed. -/
theorem ramp_outcome
    (hagreed : (s.plausibility.check command reference c.plausibilityThreshold).count.toNat <
      c.plausibilityDebounceCycles.toNat) :
    Unlatched c rate s command reference (k.outcome c s) := by
  subst hcommand
  have haccepted : (k.findings c s).accepted = some (c.toInternal k.inputs.command) :=
    (findings_accepted c s k).trans (if_pos hrange)
  have hplausibility := plausibility_of_both (k := k) hreference haccepted
  have hstaleness := staleness_of_accepted (k := k) haccepted
  have hcondition : (k.findings c s).condition c = none := by
    rw [condition_of_both hreference haccepted, hplausibility, hramp, if_neg]
    · rw [FailSafe.latchesTimeout, Bool.and_false]
      rfl
    · rw [UInt16.not_le, UInt16.lt_iff_toNat_lt]
      exact hagreed
  have hlatch : s.latch.step none = (s.latch, .none) := by
    unfold Latch.step
    rw [hopen]
  have hengaged : s.latch.isEngaged = false := by
    unfold Latch.isEngaged
    rw [hopen]
    rfl
  have hstate := state_of_governed (c := c) (s := s) ho
  rw [governedState_eq, hcondition, hlatch, hengaged, haccepted, hramp] at hstate
  have hstale : (k.findings c s).isStale c =
      (s.staleness.observe (c.toInternal k.inputs.command)).isStale c.cmdTimeoutCycles := by
    unfold Findings.isStale
    rw [hstaleness]
  rw [hstale] at hstate
  obtain ⟨hposition, hduty, hfault, hlevel, hreported⟩ := report_eq_state c s k
  refine ⟨?_, ?_, ?_, ?_, ?_, hposition, hduty, ?_, ?_⟩
  · rw [hstate]
  · rw [hreported, hstate]
    exact hopen
  · rw [hlevel, hstate]
  · rw [hfault, hstate]
    unfold State.fault
    rw [hengaged]
    rfl
  · rw [hstate]
    dsimp only
    rw [if_neg Bool.false_ne_true]
    exact nextPosition_of_ramp hramp _ _ _
  · rw [hstate]
    exact hplausibility
  · rw [hstate]
    exact hstaleness

/-- A disagreement that has lasted long enough is latched, whether the command is stale or not. -/
theorem plausibility_outcome
    (hconfirmed : c.plausibilityDebounceCycles.toNat ≤
      (s.plausibility.check command reference c.plausibilityThreshold).count.toNat) :
    (k.outcome c s).report.latch =
      .faulted (Latch.nextLevel s.latch.disableLevel) .plausibility := by
  subst hcommand
  have haccepted : (k.findings c s).accepted = some (c.toInternal k.inputs.command) :=
    (findings_accepted c s k).trans (if_pos hrange)
  have hcondition : (k.findings c s).condition c = some .plausibility := by
    rw [condition_of_both hreference haccepted, plausibility_of_both (k := k) hreference haccepted,
      if_pos (UInt16.le_iff_toNat_le.mpr hconfirmed)]
  obtain ⟨-, -, -, -, hreported⟩ := report_eq_state c s k
  rw [hreported, state_of_governed ho, governedState_eq, hcondition]
  unfold Latch.step
  dsimp only
  rw [hopen]

end Cycle

end Governor
end FrontZone
