import FrontZone.Proofs.Governor.Cycle
import FrontZone.Proofs.History
import FrontZone.Proofs.Latch
/-!
# Fault detection over the history

A governor finds faults with two counters that are stepped, held or reset from cycle to cycle. Over
the history of its governed cycles neither is needed: `History.condition` reads the fault condition
of a cycle off the commands and readings so far. `Tracks` is the link between the two, kept by every
cycle, held ones included; the main statement is that the latch is fed exactly that condition.
-/

namespace FrontZone
namespace Governor

/-! ## Histories of governed cycles -/

/-- What a governed cycle had to go by. -/
structure Sample where
  /-- In signal units. -/
  command : Int32
  /-- In signal units; none where the sensor was not read or could not be. -/
  reading : Option Int32
  /-- The position before the cycle. -/
  position : Int32

/-- The governed cycles of an actuator, oldest first. -/
abbrev History := List Sample

namespace History

variable (c : Calibration)

/-- The commands in range so far, in internal units. -/
def admitted (h : History) : List Int32 :=
  (h.map fun x => c.toInternal x.command).filter c.range.contains

/-- What the command of a cycle is compared with: the sensor's reading, or else the command admitted
before, or the position if there was none. -/
def reference (past : History) (x : Sample) : Option Int32 :=
  match c.feedback with
  | .sensor => x.reading.map c.toInternal
  | .loopBack => some ((admitted c past).getLast?.getD x.position)

/-- Whether command and reference of a cycle are too far apart. Only a cycle with a reference and a
command in range is evaluated. -/
def verdict (past : History) (x : Sample) : Option Bool :=
  if c.range.contains (c.toInternal x.command) then
    (reference c past x).map fun r =>
      c.plausibilityThreshold.toInt < ((c.toInternal x.command).toInt - r.toInt).natAbs
  else none

/-- The outcomes of the evaluated cycles. -/
def verdicts (h : History) : List Bool :=
  (withPast h).filterMap fun p => verdict c p.1 p.2

/-- Enough cycles have been evaluated, and the newest of them all found command and reference too
far apart. -/
def FailsPlausibility (h : History) : Prop :=
  c.plausibilityDebounceCycles.toNat ≤ (verdicts c h).length ∧
    ∀ v ∈ lastN c.plausibilityDebounceCycles.toNat (verdicts c h), v = true

/-- Enough commands have been in range, and the newest of them are all equal. -/
def Stale (h : History) : Prop :=
  c.cmdTimeoutCycles.toNat ≤ (admitted c h).length ∧
    ∀ x ∈ lastN c.cmdTimeoutCycles.toNat (admitted c h),
      ∀ y ∈ lastN c.cmdTimeoutCycles.toNat (admitted c h), x = y

instance (h : History) : Decidable (FailsPlausibility c h) :=
  inferInstanceAs (Decidable (_ ∧ _))

instance (h : History) : Decidable (Stale c h) :=
  inferInstanceAs (Decidable (_ ∧ _))

/-- The fault condition of a cycle that comes after `past`. -/
def condition (past : History) (x : Sample) : Option FaultCode :=
  if c.feedback = .sensor ∧ x.reading = none then some .sensorFail
  else if ¬ c.range.contains (c.toInternal x.command) then some .outOfRange
  else if FailsPlausibility c (past ++ [x]) then some .plausibility
  else if c.failSafe = .snap ∧ Stale c (past ++ [x]) then some .cmdTimeout
  else none

lemma admitted_concat (h : History) (x : Sample) :
    admitted c (h ++ [x]) =
      if c.range.contains (c.toInternal x.command) then admitted c h ++ [c.toInternal x.command]
      else admitted c h := by
  simp only [admitted, List.map_append, List.filter_append, List.map_singleton]
  split
  · next hx => rw [List.filter_singleton, hx, cond_true]
  · next hx => rw [List.filter_singleton, eq_false_of_ne_true hx, cond_false, List.append_nil]

lemma verdicts_concat (h : History) (x : Sample) :
    verdicts c (h ++ [x]) = verdicts c h ++ (verdict c h x).toList :=
  filterMap_withPast_concat ..

end History

/-! ## The counters -/

variable {c : Calibration} {s : State} {h : History} {k : Call}

/-- A saturating count of `n` is at a threshold of its type exactly if `n` is. -/
lemma le_count_iff {threshold count : UInt16} {n : Nat} (hcount : count.toNat = min 65535 n) :
    threshold ≤ count ↔ threshold.toNat ≤ n := by
  have ht := threshold.toNat_lt
  rw [UInt16.le_iff_toNat_le, hcount]
  omega

/-- What the monitors of a state hold, over the history of governed cycles. -/
structure Tracks (c : Calibration) (h : History) (s : State) : Prop where
  lastCommand_eq : s.staleness.lastCommand = (h.admitted c).getLast?
  staleCount_eq : s.staleness.count.toNat = min 65535 (repeats (h.admitted c))
  plausibleCount_eq : s.plausibility.count.toNat = min 65535 (streak id (h.verdicts c))

lemma tracks_initial (c : Calibration) : Tracks c [] (.initial c) :=
  ⟨rfl, rfl, rfl⟩

/-- The sample that a governed cycle adds to the history. -/
def Call.sample (k : Call) (c : Calibration) (s : State) : Sample :=
  ⟨k.inputs.command, k.reading c, s.position⟩

lemma findings_reference (ht : Tracks c h s) :
    (k.findings c s).reference = h.reference c (k.sample c s) := by
  show referencePosition c s (k.reading c) = _
  unfold referencePosition History.reference
  rw [ht.lastCommand_eq]
  rfl

/-- A command in range is accepted as it is, and no other is. -/
lemma findings_accepted (c : Calibration) (s : State) (k : Call) :
    (k.findings c s).accepted =
      if c.range.contains (c.toInternal (k.sample c s).command) then
        some (c.toInternal (k.sample c s).command)
      else none := by
  show c.range.accept (c.toInternal (k.sample c s).command) = _
  rw [PositionRange.accept]

/-- A cycle with a reference and an accepted command checks one against the other. -/
lemma plausibility_of_both {r command : Int32} (hr : (k.findings c s).reference = some r)
    (ha : (k.findings c s).accepted = some command) :
    (k.findings c s).plausibility = s.plausibility.check command r c.plausibilityThreshold := by
  unfold Call.findings examine at hr ha ⊢
  dsimp only at hr ha ⊢
  rw [hr, ha]

lemma plausibility_of_no_reference (hr : (k.findings c s).reference = none) :
    (k.findings c s).plausibility = s.plausibility := by
  unfold Call.findings examine at hr ⊢
  dsimp only at hr ⊢
  rw [hr]

lemma plausibility_of_not_accepted (ha : (k.findings c s).accepted = none) :
    (k.findings c s).plausibility = s.plausibility := by
  unfold Call.findings examine at ha ⊢
  dsimp only at ha ⊢
  rw [ha]
  cases referencePosition c s (k.reading c) <;> rfl

lemma staleness_of_accepted {command : Int32} (ha : (k.findings c s).accepted = some command) :
    (k.findings c s).staleness = s.staleness.observe command := by
  unfold Call.findings examine at ha ⊢
  dsimp only at ha ⊢
  rw [ha]

lemma staleness_of_not_accepted (ha : (k.findings c s).accepted = none) :
    (k.findings c s).staleness = s.staleness := by
  unfold Call.findings examine at ha ⊢
  dsimp only at ha ⊢
  rw [ha]

/-- The staleness monitor counts the newest equal commands among those in range. -/
lemma findings_staleness (ht : Tracks c h s) :
    (k.findings c s).staleness.lastCommand = (History.admitted c (h ++ [k.sample c s])).getLast? ∧
      (k.findings c s).staleness.count.toNat =
        min 65535 (repeats (History.admitted c (h ++ [k.sample c s]))) := by
  have haccepted := findings_accepted c s k
  rw [History.admitted_concat]
  by_cases hx : c.range.contains (c.toInternal (k.sample c s).command)
  · rw [if_pos hx] at haccepted ⊢
    rw [staleness_of_accepted haccepted, List.getLast?_concat, repeats_concat, ← ht.lastCommand_eq]
    unfold Staleness.observe
    -- a repeated command is counted up, a new one starts over at one
    split
    · next hsame =>
      refine ⟨hsame, ?_⟩
      rw [toNat_countUp16, ht.staleCount_eq]
      omega
    · exact ⟨rfl, rfl⟩
  · rw [if_neg hx] at haccepted ⊢
    rw [staleness_of_not_accepted haccepted]
    exact ⟨ht.lastCommand_eq, ht.staleCount_eq⟩

/-- The plausibility monitor takes in the verdict of a cycle, if there is one. -/
lemma findings_plausibility_eq (hv : c.IsValid) (ht : Tracks c h s) :
    (k.findings c s).plausibility =
      (h.verdict c (k.sample c s)).elim s.plausibility fun far =>
        if far then ⟨countUp16 s.plausibility.count⟩ else ⟨0⟩ := by
  have haccepted := findings_accepted c s k
  have href := findings_reference (k := k) ht
  unfold History.verdict
  by_cases hx : c.range.contains (c.toInternal (k.sample c s).command)
  · rw [if_pos hx] at haccepted ⊢
    cases hr : h.reference c (k.sample c s) with
    | none =>
      rw [hr] at href
      exact plausibility_of_no_reference href
    | some r =>
      rw [hr] at href
      rw [plausibility_of_both href haccepted, check_eq hv, Option.map_some, Option.elim_some]
      simp only [decide_eq_true_eq]
      rfl
  · rw [if_neg hx] at haccepted ⊢
    exact plausibility_of_not_accepted haccepted

/-- The plausibility monitor counts the newest cycles with command and reference too far apart. -/
lemma findings_plausibility (hv : c.IsValid) (ht : Tracks c h s) :
    (k.findings c s).plausibility.count.toNat =
      min 65535 (streak id (History.verdicts c (h ++ [k.sample c s]))) := by
  rw [findings_plausibility_eq hv ht, History.verdicts_concat]
  cases hverdict : h.verdict c (k.sample c s) with
  | none =>
    -- a cycle that is not evaluated holds the count
    rw [Option.toList_none, List.append_nil]
    exact ht.plausibleCount_eq
  | some v =>
    rw [Option.toList_some, streak_concat]
    cases v with
    | true =>
      show (countUp16 s.plausibility.count).toNat = min 65535 (streak id (h.verdicts c) + 1)
      rw [toNat_countUp16, ht.plausibleCount_eq]
      omega
    | false => rfl

/-- An override leaves the monitors alone. -/
lemma tracks_override (ht : Tracks c h s) (ho : k.inputs.isOverride) :
    Tracks c h (k.outcome c s).state := by
  rw [state_of_override ho]
  exact ⟨ht.lastCommand_eq, ht.staleCount_eq, ht.plausibleCount_eq⟩

/-- A governed cycle takes its sample into the monitors. -/
theorem tracks_governed (hv : c.IsValid) (ht : Tracks c h s) (ho : ¬ k.inputs.isOverride) :
    Tracks c (h ++ [k.sample c s]) (k.outcome c s).state := by
  obtain ⟨hlast, hstale⟩ := findings_staleness (k := k) ht
  rw [state_of_governed ho, governedState_eq]
  exact ⟨hlast, hstale, findings_plausibility hv ht⟩

/-! ## The condition of a cycle -/

/-- Without a reference the sensor has failed. -/
lemma reference_isNone_iff {x : Sample} :
    (h.reference c x).isNone ↔ c.feedback = .sensor ∧ x.reading = none := by
  unfold History.reference
  cases c.feedback <;> simp

/-- The plausibility monitor confirms exactly where the history is implausible. -/
lemma isConfirmed_iff (hv : c.IsValid) (ht : Tracks c h s) :
    (k.findings c s).plausibility.isConfirmed c.plausibilityDebounceCycles ↔
      History.FailsPlausibility c (h ++ [k.sample c s]) := by
  unfold Plausibility.isConfirmed History.FailsPlausibility
  rw [decide_eq_true_iff, le_count_iff (findings_plausibility hv ht), le_streak_iff]
  rfl

/-- The staleness monitor gives out exactly where the history is stale. -/
lemma isStale_iff (hv : c.IsValid) (ht : Tracks c h s) :
    (k.findings c s).isStale c ↔ History.Stale c (h ++ [k.sample c s]) := by
  have htimeout : 0 < c.cmdTimeoutCycles.toNat := by
    have h := hv.timeout_ne_zero
    rw [ne_eq, ← UInt16.toNat_inj, UInt16.toNat_zero] at h
    omega
  unfold Findings.isStale Staleness.isStale History.Stale
  rw [decide_eq_true_iff, le_count_iff (findings_staleness ht).2, le_repeats_iff htimeout]

/-- The condition that a governed cycle feeds to the latch is the one of the history. -/
theorem findings_condition (hv : c.IsValid) (ht : Tracks c h s) :
    (k.findings c s).condition c = h.condition c (k.sample c s) := by
  have href := findings_reference (k := k) ht
  have haccepted : (k.findings c s).accepted.isNone ↔
      ¬ c.range.contains (c.toInternal (k.sample c s).command) := by
    rw [← isSome_accept_iff, Bool.not_eq_true, Option.isSome_eq_false_iff]
    rfl
  unfold Findings.condition History.condition
  by_cases hsensor : c.feedback = .sensor ∧ (k.sample c s).reading = none
  · rw [if_pos hsensor, href, if_pos (reference_isNone_iff.mpr hsensor)]
  by_cases hrange : c.range.contains (c.toInternal (k.sample c s).command)
  · -- command and reference are there, so the plausibility verdict counts
    have hnone : ¬ (k.findings c s).reference.isNone := by
      rw [href]
      exact fun hr => hsensor (reference_isNone_iff.mp hr)
    have hsome : ¬ (k.findings c s).accepted.isNone := fun ha => haccepted.mp ha hrange
    have hfails : (k.findings c s).failsPlausibility c ↔
        History.FailsPlausibility c (h ++ [k.sample c s]) := by
      rw [← isConfirmed_iff hv ht]
      unfold Findings.failsPlausibility
      rw [Bool.not_eq_true, ← Option.not_isSome, Bool.not_eq_false'] at hnone hsome
      rw [hnone, hsome]
      rfl
    have hlatches : c.failSafe.latchesTimeout ↔ c.failSafe = .snap := by
      cases c.failSafe <;> simp [FailSafe.latchesTimeout]
    have hstale : ((k.findings c s).isStale c && c.failSafe.latchesTimeout) ↔
        c.failSafe = .snap ∧ History.Stale c (h ++ [k.sample c s]) := by
      rw [Bool.and_eq_true, isStale_iff hv ht, hlatches, and_comm]
    rw [if_neg hsensor, if_neg (not_not_intro hrange), if_neg hnone, if_neg hsome]
    simp only [hfails, hstale]
  · rw [if_neg hsensor, if_pos hrange, href,
      if_neg fun hr => hsensor (reference_isNone_iff.mp hr), if_pos (haccepted.mpr hrange)]

/-! ## Runs -/

/-- The samples that a run of updates takes from the start, one for each governed cycle. -/
def samples (c : Calibration) (ks : List Call) : History :=
  (withPast ks).filterMap fun p =>
    if p.2.inputs.isOverride then none else some (p.2.sample c ((State.initial c).run c p.1))

lemma samples_concat (c : Calibration) (ks : List Call) (k : Call) :
    samples c (ks ++ [k]) =
      if k.inputs.isOverride then samples c ks
      else samples c ks ++ [k.sample c ((State.initial c).run c ks)] := by
  rw [samples, filterMap_withPast_concat]
  split
  · exact List.append_nil _
  · rfl

/-- The monitors follow the history through every run. -/
theorem tracks_run (hv : c.IsValid) (ks : List Call) :
    Tracks c (samples c ks) ((State.initial c).run c ks) := by
  induction ks using List.reverseRecOn with
  | nil => exact tracks_initial c
  | append_singleton ks k ih =>
    rw [State.run_concat, samples_concat]
    split
    · next ho => exact tracks_override ih ho
    · next ho => exact tracks_governed hv ih ho

/-- What a governed cycle makes of its sample `x`: from latch `before` to state `after` with
`report`, where `past` are the samples before. -/
structure Detects (c : Calibration) (past : History) (x : Sample) (before : Latch) (after : State)
    (report : CycleReport) : Prop where
  /-- The latch is fed the condition of the history and could have been fed no other. -/
  fed_iff : ∀ condition, after.latch = (before.step condition).1 ↔ condition = past.condition c x
  transition_eq : report.transition = (before.step (past.condition c x)).2
  /-- Down a ramp a stale command is reported without a latch. -/
  timeout_of_ramp : ∀ rate, c.failSafe = .ramp rate → after.latch.state = .normal →
    report.fault = if History.Stale c (past ++ [x]) then .cmdTimeout else .noFault

lemma detects_governed (hv : c.IsValid) (ht : Tracks c h s) (ho : ¬ k.inputs.isOverride) :
    Detects c h (k.sample c s) s.latch (k.outcome c s).state (k.outcome c s).report := by
  obtain ⟨-, -, hfault, -, -⟩ := report_eq_state c s k
  have hlatch : (k.outcome c s).state.latch = (s.latch.step (h.condition c (k.sample c s))).1 := by
    rw [state_of_governed ho, governedState_eq, findings_condition hv ht]
  have htransition := transition_of_governed (c := c) (s := s) ho
  refine ⟨fun condition => ⟨fun heq => ?_, fun heq => ?_⟩, ?_, fun rate hramp hopen => ?_⟩
  · rw [hlatch] at heq
    exact (Latch.step_injective heq).symm
  · rw [heq, hlatch]
  · rw [htransition, findings_condition hv ht]
  · have hdisengaged : ¬ (k.outcome c s).state.latch.isEngaged := by
      simp [Latch.isEngaged, hopen]
    have htimeout : (k.outcome c s).state.timeoutActive = (k.findings c s).isStale c := by
      rw [state_of_governed ho, governedState_eq, hramp]
      rfl
    rw [hfault, State.fault, if_neg hdisengaged, htimeout]
    simp only [isStale_iff hv ht]

/-- In every run of updates from the start, every governed cycle detects what its history says. -/
theorem every_governed_update_detects {g : Governor} (hg : init (some c) = .ok g) (ks : List Call)
    (k : Call) (ho : ¬ k.inputs.isOverride) :
    let past := g.run (ks.map .update)
    ∃ s s' report, past.active = some ⟨c, s⟩ ∧ (past.perform k).governor.active = some ⟨c, s'⟩ ∧
      (past.perform k).report = .ok report ∧
      Detects c (samples c ks) (k.sample c s) s.latch s' report := by
  intro past
  obtain ⟨hv, rfl⟩ := init_eq_ok_iff.mp hg
  have hact : past.active = some ⟨c, (State.initial c).run c ks⟩ := run_updates rfl ks
  refine ⟨_, (k.outcome c ((State.initial c).run c ks)).state, _, hact, ?_, ?_,
    detects_governed hv (tracks_run hv ks) ho⟩
  · rw [perform_of_active hact]
  · rw [perform_of_active hact]

/-- Five commands far from what the steering sensor reads, and the fifth is implausible. -/
theorem fifth_far_command_detected :
    let g : Governor := ⟨some ⟨.steering, .initial .steering⟩⟩
    let k : Call := ⟨{ command := 20 }, .scripted 0, {}⟩
    let ks := List.replicate 4 k
    let past := g.run (ks.map .update)
    init (some .steering) = .ok g ∧ ¬ k.inputs.isOverride ∧
      (samples .steering ks).condition .steering ⟨20, some 0, 12⟩ = some .plausibility ∧
      ∃ s s' report, past.active = some ⟨.steering, s⟩ ∧
        (past.perform k).governor.active = some ⟨.steering, s'⟩ ∧
        (past.perform k).report = .ok report ∧
        Detects .steering (samples .steering ks) (k.sample .steering s) s.latch s' report :=
  ⟨rfl, Bool.false_ne_true, by decide +kernel,
    every_governed_update_detects rfl (List.replicate 4 _) _ Bool.false_ne_true⟩

end Governor
end FrontZone
