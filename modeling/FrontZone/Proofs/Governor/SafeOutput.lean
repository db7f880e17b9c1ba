import FrontZone.Proofs.Drive
import FrontZone.Proofs.Governor.Cycle
import FrontZone.Proofs.Motion
/-!
# The position in its range, the output safe

Four paths write the position: the slew limit, the ramp, the latch and the override, and starting
over replaces it under another calibration. `State.Consistent` is what all of them keep;
`SafeOutput` says what it means for the output of one update, and the main statement is that every
update of every run has it.
-/

namespace FrontZone
namespace Governor

variable {c : Calibration} {s : State} {g : Governor} {k : Call}

/-! ## Where the position can go -/

/-- An accepted command is the command, in range. -/
lemma accept_eq_some_iff {r : PositionRange} {command target : Int32} :
    r.accept command = some target ↔ r.contains command ∧ command = target := by
  unfold PositionRange.accept
  split <;> simp_all

lemma rateLimit_toInt_pos (hv : c.IsValid) : 0 < c.rateLimit.toInt := by
  have hl := hv.rateLimit_pos
  rwa [Int32.lt_iff_toInt_lt, Int32.toInt_zero] at hl

lemma ramp_toInt_pos (hv : c.IsValid) {rate : Int32} (hramp : c.failSafe = .ramp rate) :
    0 < rate.toInt := by
  have hr := hv.ramp_progresses
  rw [hramp] at hr
  rwa [FailSafe.Progresses, Int32.lt_iff_toInt_lt, Int32.toInt_zero] at hr

lemma contains_nextPosition (hv : c.IsValid) {position : Int32} {accepted : Option Int32}
    (hp : c.range.contains position) (ha : ∀ target ∈ accepted, c.range.contains target)
    (stale : Bool) : c.range.contains (nextPosition c position accepted stale) := by
  unfold nextPosition
  split
  · next rate hramp => exact contains_rampToward (ramp_toInt_pos hv hramp).le hp hv.safe_mem
  · apply contains_rateLimit (rateLimit_toInt_pos hv).le hp
    cases accepted with
    | none => exact hp
    | some target => exact ha target rfl

/-! ## What every state satisfies -/

/-- What holds of every state of a governor with calibration `c`. -/
structure State.Consistent (c : Calibration) (s : State) : Prop where
  position_mem : c.range.contains s.position
  /-- Only where a stale command is not latched is it reported without a latch. -/
  ramps_of_timeout : s.timeoutActive → ∃ rate, c.failSafe = .ramp rate

lemma consistent_initial (hv : c.IsValid) : (State.initial c).Consistent c where
  position_mem := hv.initial_mem
  ramps_of_timeout h := nomatch h

/-- A cycle that arrives in range stays consistent: no timeout starts under a latching policy. -/
lemma consistent_governed (hv : c.IsValid) (hs : s.Consistent c) (k : Call) :
    (governedState c s (k.findings c s)).1.Consistent c := by
  have haccepted : ∀ target ∈ (k.findings c s).accepted, c.range.contains target := by
    intro target h
    obtain ⟨hmem, rfl⟩ := accept_eq_some_iff.mp h
    exact hmem
  have hmoved := contains_nextPosition hv hs.position_mem haccepted
  rw [governedState_eq]
  constructor
  · dsimp only
    split
    · exact hv.safe_mem
    · exact hmoved _
  · -- only a ramp takes over the timeout, any other policy leaves it as it was
    dsimp only
    cases hf : c.failSafe with
    | ramp rate => exact fun _ => ⟨rate, rfl⟩
    | snap =>
      intro h
      rw [← hf]
      exact hs.ramps_of_timeout h

theorem consistent_outcome (hv : c.IsValid) (hs : s.Consistent c) (k : Call) :
    (k.outcome c s).state.Consistent c := by
  by_cases h : k.inputs.isOverride
  · rw [state_of_override h]
    exact ⟨hv.safe_mem, hs.ramps_of_timeout⟩
  · rw [state_of_governed h]
    have hnext := consistent_governed hv hs k
    exact ⟨hnext.position_mem, hnext.ramps_of_timeout⟩

/-- What holds of every governor: if it runs, then on a valid calibration and consistently. -/
def Consistent (g : Governor) : Prop :=
  ∀ c s, g.active = some ⟨c, s⟩ → c.IsValid ∧ s.Consistent c

lemma consistent_of_init {calibration : Option Calibration} (h : init calibration = .ok g) :
    g.Consistent :=
  satisfies_of_init consistent_initial h

/-- Every run keeps a governor consistent; a refused calibration leaves it as it is. -/
theorem consistent_run (hg : g.Consistent) (rs : List Request) : (g.run rs).Consistent :=
  satisfies_run consistent_initial consistent_outcome hg rs

/-! ## The output of one update -/

/-- The output of an update with calibration `c`, which found the hardware as `before` and left it
as `after`, arriving at state `s`. -/
structure SafeOutput (c : Calibration) (inputs : CycleInputs) (before after : Rig) (s : State)
    (report : CycleReport) : Prop where
  position_eq : report.position = s.position
  position_mem : c.range.contains s.position
  duty_eq : report.duty = mapToDrive s.position c.range c.output
  duty_mem : c.output.min ≤ report.duty ∧ report.duty ≤ c.output.max
  /-- The drive output is written to once, and that with the duty reported. -/
  duty_written : ∃ mid : Rig, mid.lastDuty = before.lastDuty ∧ mid.dutyWrites = before.dutyWrites ∧
    after = mid.writeDuty report.duty
  driven_once : DrivenOnce before after report.duty
  safe_of_engaged : s.latch.isEngaged → s.position = c.safeValue
  safe_of_override : inputs.isOverride → s.position = c.safeValue
  /-- A reported fault means the safe value, unless a ramp is on its way there. -/
  safe_of_fault : report.fault ≠ .noFault → s.position = c.safeValue ∨
    report.fault = .cmdTimeout ∧ s.latch.state = .normal ∧ ∃ rate, c.failSafe = .ramp rate

/-- A latch that is engaged after a cycle holds the position at the safe value. -/
lemma position_eq_safe_of_engaged (c : Calibration) (s : State) (k : Call)
    (h : (k.outcome c s).state.latch.isEngaged) : (k.outcome c s).state.position = c.safeValue := by
  by_cases ho : k.inputs.isOverride
  · rw [state_of_override ho]
  · rw [state_of_governed ho] at h ⊢
    rw [governedState_eq] at h ⊢
    exact if_pos h

/-- The output of a consistent governor is safe. -/
lemma safeOutput_outcome (hv : c.IsValid) (hs : s.Consistent c) (k : Call) :
    SafeOutput c k.inputs k.rig ((k.outcome c s).onRig (sense c k.inputs k.rig).1)
      (k.outcome c s).state (k.outcome c s).report := by
  obtain ⟨hposition, hduty, hfault, -, -⟩ := report_eq_state c s k
  have hs' := consistent_outcome hv hs k
  have hengaged := position_eq_safe_of_engaged c s k
  obtain ⟨-, -, hsensed, hsensedCount⟩ := sense_outputs c k.inputs k.rig
  obtain ⟨hlast, hcount⟩ := writeLines_duty (sense c k.inputs k.rig).1 (k.outcome c s).lineWrites
  have hdomain : c.output.min ≤ c.output.max :=
    UInt16.le_trans hv.output_min_le hv.output_le_max
  refine ⟨hposition, hs'.position_mem, hduty, ?_, ⟨_, ?_, ?_, rfl⟩,
    drivenOnce_onRig _ c k.inputs k.rig, hengaged, ?_, ?_⟩
  · rw [hduty]
    exact mapToDrive_mem hdomain
  · rw [hlast, hsensed]
  · rw [hcount, hsensedCount]
  · intro h
    rw [state_of_override h]
  · intro h
    rw [hfault] at h ⊢
    unfold State.fault at h ⊢
    by_cases he : (k.outcome c s).state.latch.isEngaged
    · exact Or.inl (hengaged he)
    · -- the latch is open, so the fault can only be a timeout that is not latched
      right
      rw [if_neg he] at h ⊢
      have hopen : (k.outcome c s).state.latch.state = .normal := by
        simpa [Latch.isEngaged] using he
      by_cases ht : (k.outcome c s).state.timeoutActive
      · exact ⟨if_pos ht, hopen, hs'.ramps_of_timeout ht⟩
      · rw [if_neg ht] at h
        exact absurd rfl h

/-- After any run of updates and restarts, whatever the hardware and the services do in between, an
update succeeds exactly if the governor is initialised, and then its output is safe. -/
theorem every_update_safe {start : Calibration} (hg : init (some start) = .ok g)
    (rs : List Request) (k : Call) :
    ((∃ report, ((g.run rs).perform k).report = .ok report) ↔ (g.run rs).isInitialized) ∧
      ∀ report, ((g.run rs).perform k).report = .ok report →
        ∃ c s, ((g.run rs).perform k).governor.active = some ⟨c, s⟩ ∧
          SafeOutput c k.inputs k.rig ((g.run rs).perform k).rig s report := by
  have hrun := consistent_run (consistent_of_init hg) rs
  cases hact : (g.run rs).active with
  | none =>
    rw [perform_of_inactive hact, isInitialized, hact]
    simp
  | some a =>
    obtain ⟨c, s⟩ := a
    obtain ⟨hv, hs⟩ := hrun c s hact
    rw [perform_of_active hact, isInitialized, hact]
    refine ⟨by simp, ?_⟩
    rintro report ⟨rfl⟩
    exact ⟨c, _, rfl, safeOutput_outcome hv hs k⟩

/-- A steering governor started over as a brake governor, and then an inadmissible command. -/
theorem update_safe_after_reinit :
    let g : Governor := ⟨some ⟨.steering, .initial .steering⟩⟩
    let rs : List Request := [.reinit (some .brake)]
    let k : Call := ⟨{ command := 250 }, .scripted 0, {}⟩
    init (some .steering) = .ok g ∧
      ∃ report s, ((g.run rs).perform k).report = .ok report ∧ report.fault = .outOfRange ∧
        SafeOutput .brake k.inputs k.rig ((g.run rs).perform k).rig s report := by
  intro g rs k
  have hg : init (some .steering) = .ok g := rfl
  have hsafe := (every_update_safe hg rs k).2 _ rfl
  obtain ⟨c, s, hact, hout⟩ := hsafe
  have hc : some Calibration.brake = some c := congrArg (Option.map Active.calibration) hact
  injection hc with hc
  subst hc
  exact ⟨hg, _, s, rfl, by decide +kernel, hout⟩

end Governor
end FrontZone
