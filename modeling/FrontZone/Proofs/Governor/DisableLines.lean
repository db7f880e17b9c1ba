import FrontZone.Proofs.Governor.Cycle
import FrontZone.Proofs.History
/-!
# Disable lines and the escalation level

A governor writes a disable line only where the pattern called for differs from the one it wrote
last. Its copy of the pattern is right as long as it is not started over: a restart forgets the copy
but not the hardware, and a line that was asserted then stays so until some cycle calls for it
again. `asserted_iff` says this of every run on one rig, line by line; the main statement is that
the lines follow the level throughout a run exactly if no restart before an update finds a line
asserted.
-/

namespace FrontZone

/-! ## Lines -/

/-- The level from which on a line is to be asserted. -/
def DisableLine.level : DisableLine → UInt8
  | .primary => 2
  | .secondary => 3

lemma LinePattern.get_ofLevel (level : UInt8) (line : DisableLine) :
    (LinePattern.ofLevel level).get line ↔ line.level ≤ level := by
  cases line <;> exact decide_eq_true_iff

lemma LinePattern.eq_released_iff {p : LinePattern} : p = .released ↔ ∀ line, ¬ p.get line := by
  constructor
  · intro h' line
    subst h'
    cases line <;> exact Bool.false_ne_true
  · intro h
    have hp := h .primary
    have hs := h .secondary
    obtain ⟨primary, secondary⟩ := p
    rw [Bool.not_eq_true] at hp hs
    exact congrArg₂ LinePattern.mk hp hs

lemma LinePattern.get_set (p : LinePattern) (line other : DisableLine) (on : Bool) :
    (p.set line on).get other = if other = line then on else p.get other := by
  cases line <;> cases other <;> rfl

/-- A line that is only ever written to `on` ends there if it is written at all. -/
lemma Rig.get_writeLines {line : DisableLine} {on : Bool} (rig : Rig)
    (writes : List (DisableLine × Bool)) (hon : ∀ w ∈ writes, w.1 = line → w.2 = on) :
    (rig.writeLines writes).lines.get line =
      if ∃ w ∈ writes, w.1 = line then on else rig.lines.get line := by
  induction writes generalizing rig with
  | nil => exact (if_neg fun ⟨_, h, _⟩ => nomatch h).symm
  | cons w ws ih =>
    have hwrite : (rig.writeLine w.1 w.2).lines.get line =
        if line = w.1 then w.2 else rig.lines.get line := LinePattern.get_set ..
    show ((rig.writeLine w.1 w.2).writeLines ws).lines.get line = _
    rw [ih _ fun w' h => hon w' (List.mem_cons_of_mem _ h), hwrite]
    by_cases hws : ∃ w ∈ ws, w.1 = line
    · obtain ⟨w', hmem, hline⟩ := hws
      rw [if_pos ⟨w', hmem, hline⟩, if_pos ⟨w', List.mem_cons_of_mem _ hmem, hline⟩]
    · -- no later write touches the line, so the first one decides
      rw [if_neg hws]
      by_cases hw : w.1 = line
      · rw [if_pos hw.symm, if_pos ⟨w, List.mem_cons_self, hw⟩, hon w List.mem_cons_self hw]
      · rw [if_neg (Ne.symm hw), if_neg]
        intro h'
        obtain ⟨w', hmem, hline⟩ := h'
        rcases List.mem_cons.mp hmem with rfl | hmem
        · exact hw hline
        · exact hws ⟨w', hmem, hline⟩

/-- Going from one pattern to another writes the lines on which they differ. -/
lemma LinePattern.mem_writes_iff {old new : LinePattern} {w : DisableLine × Bool} :
    w ∈ LinePattern.writes old new ↔ new.get w.1 ≠ old.get w.1 ∧ w.2 = new.get w.1 := by
  obtain ⟨line, on⟩ := w
  have hmem : line ∈ [DisableLine.primary, .secondary] := by cases line <;> decide
  rw [LinePattern.writes, List.mem_filterMap]
  constructor
  · intro h'
    obtain ⟨l, -, hl⟩ := h'
    by_cases h : new.get l = old.get l
    · rw [if_pos h] at hl
      exact nomatch hl
    · rw [if_neg h] at hl
      injection hl with hl
      injection hl with hline hon
      subst hline hon
      exact ⟨h, rfl⟩
  · intro h'
    obtain ⟨hne, hon⟩ := h'
    refine ⟨line, hmem, ?_⟩
    rw [if_neg hne, ← hon]

/-- Where the patterns agree a line stays as it was, right or wrong. -/
lemma Rig.get_writeLines_writes (rig : Rig) (old new : LinePattern) (line : DisableLine) :
    (rig.writeLines (LinePattern.writes old new)).lines.get line =
      if new.get line = old.get line then rig.lines.get line else new.get line := by
  have hwritten : (∃ w ∈ LinePattern.writes old new, w.1 = line) ↔ new.get line ≠ old.get line := by
    constructor
    · intro h'
      obtain ⟨w, hw, rfl⟩ := h'
      exact (LinePattern.mem_writes_iff.mp hw).1
    · intro h
      exact ⟨(line, new.get line), LinePattern.mem_writes_iff.mpr ⟨h, rfl⟩, rfl⟩
  have hon : ∀ w ∈ LinePattern.writes old new, w.1 = line → w.2 = new.get line := by
    intro w hw hline
    subst hline
    exact (LinePattern.mem_writes_iff.mp hw).2
  rw [rig.get_writeLines _ hon]
  simp only [hwritten, ite_not]

namespace Governor

variable {c : Calibration} {s : State} {g : Governor} {k : Call}

/-! ## One cycle -/

/-- With disable lines every cycle remembers the pattern of the level it arrives at. -/
lemma lines_eq_ofLevel (hc : c.escalation = .disableLines) (s : State) (k : Call) :
    (k.outcome c s).state.lines = .ofLevel (k.outcome c s).state.latch.activeLevel := by
  by_cases h : k.inputs.isOverride
  · rw [state_of_override h]
    show wantedLines c s = _
    rw [wantedLines, hc]
  · rw [state_of_governed h]
    show wantedLines c _ = _
    rw [wantedLines, hc]

/-- The first cycle does not get beyond level one. -/
lemma activeLevel_first_le (c : Calibration) (k : Call) :
    (k.outcome c (.initial c)).state.latch.activeLevel ≤ 1 := by
  by_cases h : k.inputs.isOverride
  · rw [state_of_override h]
    show (0 : UInt8) ≤ 1
    decide
  · rw [state_of_governed h, governedState_eq]
    show ((State.initial c).latch.step _).1.activeLevel ≤ 1
    cases (k.findings c (.initial c)).condition c with
    | none =>
      show (0 : UInt8) ≤ 1
      decide
    | some fault => exact UInt8.le_refl 1

/-- A governor whose memory of the lines is the pattern of its level. -/
def Remembers (g : Governor) : Prop :=
  ∀ c s, g.active = some ⟨c, s⟩ →
    c.escalation = .disableLines ∧ s.lines = .ofLevel s.latch.activeLevel

/-! ## A governor on its rig -/

/-- A valid calibration that escalates by the disable lines. -/
structure LineCalibration where
  calibration : Calibration
  isValid : calibration.IsValid
  escalation_eq : calibration.escalation = .disableLines

/-- A governor and the rig it drives. -/
structure Bench where
  governor : Governor
  rig : Rig

namespace Bench

/-- What can happen on a bench. -/
inductive Event where
  | update (inputs : CycleInputs) (services : Services)
  | restart (start : LineCalibration)
  /-- Anything done to the rig from outside; only the governor drives the lines. -/
  | disturb (change : Rig → Rig) (lines_eq : ∀ rig, (change rig).lines = rig.lines)

/-- The bench after one event. -/
def handle (b : Bench) : Event → Bench
  | .update inputs services =>
    let u := b.governor.perform ⟨inputs, b.rig, services⟩
    ⟨u.governor, u.rig⟩
  | .restart start => ⟨(b.governor.reinit (some start.calibration)).1, b.rig⟩
  | .disturb change _ => ⟨b.governor, change b.rig⟩

/-- The bench after a run of events. -/
def run (b : Bench) (es : List Event) : Bench :=
  es.foldl handle b

/-- Whether the hardware has a line asserted. -/
def Asserted (b : Bench) (line : DisableLine) : Prop :=
  b.rig.lines.get line

/-- Whether the latch is engaged at a level that asserts a line. -/
def Calls (b : Bench) (line : DisableLine) : Prop :=
  ∃ a ∈ b.governor.active, a.state.latch.isEngaged ∧ line.level ≤ a.state.latch.activeLevel

/-- Whether every line follows the level after an update, if the update succeeds. -/
def Follows (b : Bench) (inputs : CycleInputs) (services : Services) : Prop :=
  (∃ report, (b.governor.perform ⟨inputs, b.rig, services⟩).report = .ok report) →
    ∀ line, (b.handle (.update inputs services)).Asserted line ↔
      (b.handle (.update inputs services)).Calls line

/-- Whether a restart found a line asserted that no cycle has called for since. -/
def Leftover (b : Bench) (es : List Event) (line : DisableLine) : Prop :=
  ∃ past start later, es = past ++ .restart start :: later ∧ (b.run past).Asserted line ∧
    ∀ mid, mid <+: later → ¬ (b.run (past ++ .restart start :: mid)).Calls line

variable {b : Bench} {es : List Event} {line : DisableLine}

lemma run_concat (b : Bench) (es : List Event) (e : Event) :
    b.run (es ++ [e]) = (b.run es).handle e :=
  List.foldl_concat ..

/-- A restart succeeds and leaves the rig alone. -/
lemma handle_restart (b : Bench) (start : LineCalibration) :
    b.handle (.restart start) =
      ⟨⟨some ⟨start.calibration, .initial start.calibration⟩⟩, b.rig⟩ := by
  show Bench.mk (b.governor.reinit (some start.calibration)).1 b.rig = _
  rw [reinit_of_isValid _ start.isValid]

/-- With nothing engaged no line is called for, and otherwise those of the level. -/
lemma calls_iff (h : b.governor.active = some ⟨c, s⟩) :
    b.Calls line ↔ (LinePattern.ofLevel s.latch.activeLevel).get line := by
  rw [LinePattern.get_ofLevel]
  constructor
  · intro h'
    obtain ⟨a, ha, -, hlevel⟩ := h'
    rw [h] at ha
    injection ha with ha
    subst ha
    exact hlevel
  · intro hlevel
    refine ⟨_, h, ?_, hlevel⟩
    -- an open latch has level zero, which is below that of every line
    by_contra hopen
    have hnormal : s.latch.state = .normal := by simpa [Latch.isEngaged] using hopen
    have hzero : s.latch.activeLevel = 0 := by simp only [Latch.activeLevel, hnormal]
    rw [hzero] at hlevel
    cases line <;> exact absurd hlevel (by decide)

/-- A governor just started calls for no line. -/
lemma not_calls_initial (h : b.governor.active = some ⟨c, .initial c⟩) : ¬ b.Calls line := by
  rw [calls_iff h, LinePattern.get_ofLevel]
  show ¬ line.level ≤ (0 : UInt8)
  cases line <;> decide

/-! ## The governor's memory -/

lemma remembers_handle (hb : b.governor.Remembers) (e : Event) : (b.handle e).governor.Remembers := by
  cases e with
  | update inputs services =>
    show (b.governor.perform ⟨inputs, b.rig, services⟩).governor.Remembers
    cases hact : b.governor.active with
    | none =>
      rw [perform_of_inactive hact]
      exact hb
    | some a =>
      obtain ⟨c, s⟩ := a
      obtain ⟨hc, -⟩ := hb c s hact
      rw [perform_of_active hact]
      intro c' s' h
      cases h
      exact ⟨hc, lines_eq_ofLevel hc s _⟩
  | restart start =>
    rw [handle_restart]
    intro c' s' h
    cases h
    exact ⟨start.escalation_eq, rfl⟩
  | disturb change lines_eq => exact hb

theorem remembers_run (hb : b.governor.Remembers) (es : List Event) :
    (b.run es).governor.Remembers := by
  induction es using List.reverseRecOn with
  | nil => exact hb
  | append_singleton es e ih =>
    rw [run_concat]
    exact remembers_handle ih e

/-! ## What one event does to a line -/

/-- Where a line that is called for is asserted, an update asserts the lines then called for and
leaves alone those that are not and were not. -/
lemma asserted_update (hb : b.governor.Remembers) (hcalls : b.Calls line → b.Asserted line)
    (inputs : CycleInputs) (services : Services) :
    (b.handle (.update inputs services)).Asserted line ↔
      (b.handle (.update inputs services)).Calls line ∨ b.Asserted line ∧ ¬ b.Calls line := by
  cases hact : b.governor.active with
  | none =>
    have hsame : b.handle (.update inputs services) = b := by
      show Bench.mk _ _ = b
      rw [perform_of_inactive hact]
    have hopen : ¬ b.Calls line := by
      intro h'
      obtain ⟨a, ha, -⟩ := h'
      rw [hact] at ha
      exact nomatch ha
    rw [hsame]
    simp only [hopen, false_or, not_false_eq_true, and_true]
  | some a =>
    obtain ⟨c, s⟩ := a
    obtain ⟨hc, hlines⟩ := hb c s hact
    set k : Call := ⟨inputs, b.rig, services⟩ with hk
    have hnext : (b.handle (.update inputs services)).governor.active =
        some ⟨c, (k.outcome c s).state⟩ := by
      show (b.governor.perform k).governor.active = _
      rw [perform_of_active hact]
    have hrig : (b.handle (.update inputs services)).rig.lines.get line =
        if (k.outcome c s).state.lines.get line = s.lines.get line then b.rig.lines.get line
        else (k.outcome c s).state.lines.get line := by
      show (b.governor.perform k).rig.lines.get line = _
      rw [perform_of_active hact]
      show ((sense c inputs b.rig).1.writeLines (k.outcome c s).lineWrites).lines.get line = _
      rw [lineWrites_eq, Rig.get_writeLines_writes, (sense_outputs c inputs b.rig).1]
    have hcalled : b.Calls line ↔ s.lines.get line := by rw [calls_iff hact, hlines]
    have hcalled' : (b.handle (.update inputs services)).Calls line ↔
        (k.outcome c s).state.lines.get line := by
      rw [calls_iff hnext, lines_eq_ofLevel hc]
    rw [hcalled, Asserted] at hcalls
    rw [hcalled, hcalled', Asserted, Asserted, hrig]
    -- only a line that was and is not called for keeps what the hardware has
    cases hold : s.lines.get line <;> cases hnew : (k.outcome c s).state.lines.get line <;>
      simp_all

/-! ## What is left over -/

/-- A line is left over since a restart, as long as it is not called for. -/
lemma leftover_iff_since (b : Bench) (es : List Event) (line : DisableLine) :
    Leftover b es line ↔
      Since (fun past e => (∃ start, e = .restart start) ∧ (b.run past).Asserted line)
        (fun es => ¬ (b.run es).Calls line) es := by
  constructor
  · rintro ⟨past, start, later, hes, hasserted, hnot⟩
    exact ⟨past, _, later, hes, ⟨⟨start, rfl⟩, hasserted⟩, hnot⟩
  · rintro ⟨past, _, later, hes, ⟨⟨start, rfl⟩, hasserted⟩, hnot⟩
    exact ⟨past, start, later, hes, hasserted, hnot⟩

lemma not_leftover_nil (b : Bench) (line : DisableLine) : ¬ Leftover b [] line := by
  rw [leftover_iff_since]
  exact not_since_nil

/-- A line left over is not called for. -/
lemma Leftover.not_calls (h : Leftover b es line) : ¬ (b.run es).Calls line :=
  ((leftover_iff_since b es line).mp h).now

/-- A line is left over by a restart that finds it asserted, and until it is called for. -/
lemma leftover_concat (b : Bench) (es : List Event) (e : Event) (line : DisableLine) :
    Leftover b (es ++ [e]) line ↔
      ((∃ start, e = .restart start) ∧ (b.run es).Asserted line ∨ Leftover b es line) ∧
        ¬ (b.run (es ++ [e])).Calls line := by
  rw [leftover_iff_since, leftover_iff_since, since_concat]

/-- A governor at the start, initialised for disable lines or not at all. -/
def Starts (b : Bench) : Prop :=
  (∃ start : Option LineCalibration, init (start.map (·.calibration)) = .ok b.governor) ∧
    b.rig.lines = .released

lemma Starts.governor_cases (h : Starts b) :
    b.governor.active = none ∨
      ∃ start : LineCalibration,
        b.governor.active = some ⟨start.calibration, .initial start.calibration⟩ := by
  obtain ⟨⟨start, hinit⟩, -⟩ := h
  cases start with
  | none =>
    have hg : ({} : Governor) = b.governor := by injection hinit
    exact Or.inl (hg ▸ rfl)
  | some start =>
    obtain ⟨-, hg⟩ := init_eq_ok_iff.mp hinit
    exact Or.inr ⟨start, by rw [hg]⟩

lemma Starts.remembers (h : Starts b) : b.governor.Remembers := by
  intro c s hact
  rcases h.governor_cases with hnone | ⟨start, hsome⟩
  · rw [hnone] at hact
    exact nomatch hact
  · rw [hsome] at hact
    cases hact
    exact ⟨start.escalation_eq, rfl⟩

lemma Starts.not_calls (h : Starts b) : ¬ b.Calls line := by
  rcases h.governor_cases with hnone | ⟨start, hsome⟩
  · intro h'
    obtain ⟨a, ha, -⟩ := h'
    rw [hnone] at ha
    exact nomatch ha
  · exact not_calls_initial hsome

/-- After any run the lines asserted are those called for and those left over. -/
theorem asserted_iff (h : Starts b) (es : List Event) (line : DisableLine) :
    (b.run es).Asserted line ↔ (b.run es).Calls line ∨ Leftover b es line := by
  induction es using List.reverseRecOn with
  | nil =>
    have hreleased : ¬ b.Asserted line := LinePattern.eq_released_iff.mp h.2 line
    exact iff_of_false hreleased (not_or.mpr ⟨h.not_calls, not_leftover_nil b line⟩)
  | append_singleton es e ih =>
    rw [leftover_concat]
    rw [run_concat]
    cases e with
    | update inputs services =>
      have hleft : Leftover b es line → ¬ (b.run es).Calls line := Leftover.not_calls
      -- asserted without being called for is, by the induction, the same as left over
      rw [asserted_update (remembers_run h.remembers es) (fun hc => ih.mpr (Or.inl hc)), ih]
      simp only [reduceCtorEq, exists_false, false_and, false_or]
      tauto
    | restart start =>
      -- nothing is called for any more, so every line still asserted is now left over
      have hopen : ¬ ((b.run es).handle (.restart start)).Calls line := by
        rw [handle_restart]
        exact not_calls_initial rfl
      have hsame : ((b.run es).handle (.restart start)).Asserted line ↔
          (b.run es).Asserted line := by rw [handle_restart]; rfl
      rw [hsame]
      simp only [hopen, not_false_eq_true, and_true, false_or]
      constructor
      · exact fun ha => Or.inl ⟨⟨start, rfl⟩, ha⟩
      · intro h'
        rcases h' with ⟨-, ha⟩ | hl
        · exact ha
        · exact ih.mpr (Or.inr hl)
    | disturb change lines_eq =>
      have hleft : Leftover b es line → ¬ (b.run es).Calls line := Leftover.not_calls
      have hsame : ((b.run es).handle (.disturb change lines_eq)).Asserted line ↔
          (b.run es).Asserted line := by
        show ((change (b.run es).rig).lines.get line = true) ↔ _
        rw [lines_eq]
        rfl
      have hcalls : ((b.run es).handle (.disturb change lines_eq)).Calls line ↔
          (b.run es).Calls line := Iff.rfl
      rw [hsame, hcalls, ih]
      simp only [reduceCtorEq, exists_false, false_and, false_or]
      tauto

/-- A line follows the level at the end of a run exactly if it is not left over. -/
theorem follows_iff_not_leftover (h : Starts b) (es : List Event) (line : DisableLine) :
    ((b.run es).Asserted line ↔ (b.run es).Calls line) ↔ ¬ Leftover b es line := by
  rw [asserted_iff h]
  have hleft : Leftover b es line → ¬ (b.run es).Calls line := Leftover.not_calls
  tauto

/-! ## Whole runs -/

lemma run_append (b : Bench) (es es' : List Event) : b.run (es ++ es') = (b.run es).run es' :=
  List.foldl_append ..

/-- The first update after a start calls for no line. -/
lemma not_calls_first (h : b.governor.active = some ⟨c, .initial c⟩) (inputs : CycleInputs)
    (services : Services) : ¬ (b.handle (.update inputs services)).Calls line := by
  have hnext : (b.handle (.update inputs services)).governor.active =
      some ⟨c, (Call.outcome ⟨inputs, b.rig, services⟩ c (.initial c)).state⟩ := by
    show (b.governor.perform ⟨inputs, b.rig, services⟩).governor.active = _
    rw [perform_of_active h]
  rw [calls_iff hnext, LinePattern.get_ofLevel]
  intro hlevel
  have hone := UInt8.le_trans hlevel (activeLevel_first_le c ⟨inputs, b.rig, services⟩)
  cases line <;> exact absurd hone (by decide)

/-- Without an update a governor just started stays so, and the lines stay as they are. -/
lemma run_of_no_update (h : b.governor.active = some ⟨c, .initial c⟩)
    (hes : ∀ inputs services, .update inputs services ∉ es) :
    (∃ c, (b.run es).governor.active = some ⟨c, .initial c⟩) ∧
      (b.run es).rig.lines = b.rig.lines := by
  induction es using List.reverseRecOn with
  | nil => exact ⟨⟨c, h⟩, rfl⟩
  | append_singleton es e ih =>
    obtain ⟨hact, hlines⟩ := ih fun i s hmem => hes i s (List.mem_append_left _ hmem)
    rw [run_concat]
    cases e with
    | update inputs services =>
      exact absurd (List.mem_append_right es List.mem_cons_self) (hes inputs services)
    | restart start =>
      rw [handle_restart]
      exact ⟨⟨_, rfl⟩, hlines⟩
    | disturb change lines_eq => exact ⟨hact, (lines_eq _).trans hlines⟩

lemma exists_first_update {inputs : CycleInputs} {services : Services}
    (h : .update inputs services ∈ es) :
    ∃ mid inputs services later, es = mid ++ .update inputs services :: later ∧
      ∀ inputs services, .update inputs services ∉ mid := by
  induction es with
  | nil => exact nomatch h
  | cons e es ih =>
    by_cases he : ∃ inputs services, e = .update inputs services
    · obtain ⟨inputs, services, rfl⟩ := he
      exact ⟨[], inputs, services, es, rfl, fun _ _ hmem => nomatch hmem⟩
    · have hmem : .update inputs services ∈ es := by
        rcases List.mem_cons.mp h with rfl | hmem
        · exact absurd ⟨inputs, services, rfl⟩ he
        · exact hmem
      obtain ⟨mid, i, s, later, rfl, hnot⟩ := ih hmem
      refine ⟨e :: mid, i, s, later, rfl, fun i' s' hmem' => ?_⟩
      rcases List.mem_cons.mp hmem' with rfl | hmem'
      · exact he ⟨i', s', rfl⟩
      · exact hnot i' s' hmem'

/-- The lines follow the level after every update of a run exactly if every restart that an update
follows finds the lines released. -/
theorem lines_follow_iff (h : Starts b) (es : List Event) :
    (∀ past inputs services later, es = past ++ .update inputs services :: later →
        (b.run past).Follows inputs services) ↔
      ∀ past start later, es = past ++ .restart start :: later →
        (∃ inputs services, .update inputs services ∈ later) →
        (b.run past).rig.lines = .released := by
  constructor
  · intro hfollows past start later hes hupdate
    subst hes
    obtain ⟨inputs, services, hmem⟩ := hupdate
    obtain ⟨mid, inputs, services, rest, rfl, hnot⟩ := exists_first_update hmem
    have hrestart : ((b.run past).handle (.restart start)).governor.active =
        some ⟨start.calibration, .initial start.calibration⟩ := by rw [handle_restart]
    obtain ⟨⟨c, hact⟩, hlines⟩ := run_of_no_update hrestart hnot
    have hpast : b.run (past ++ .restart start :: mid) =
        ((b.run past).handle (.restart start)).run mid := run_append ..
    rw [← hpast] at hact hlines
    have hupdate := hfollows (past ++ .restart start :: mid) inputs services rest (by simp)
      ⟨_, by rw [perform_of_active hact]⟩
    -- the first update after the restart leaves the lines alone and calls for none
    rw [LinePattern.eq_released_iff]
    intro line hasserted
    have hstill : (b.run (past ++ .restart start :: mid)).Asserted line := by
      rw [handle_restart] at hlines
      show (b.run (past ++ .restart start :: mid)).rig.lines.get line = true
      rw [hlines]
      exact hasserted
    have hopen : ¬ (b.run (past ++ .restart start :: mid)).Calls line := not_calls_initial hact
    refine not_calls_first hact inputs services ((hupdate line).mp ?_)
    rw [asserted_update (remembers_run h.remembers _) (fun hc => absurd hc hopen)]
    exact Or.inr ⟨hstill, hopen⟩
  · intro hreleased past inputs services later hes _ line
    subst hes
    rw [← run_concat, follows_iff_not_leftover h]
    intro h'
    obtain ⟨past', start, later', heq, hasserted, -⟩ := h'
    -- the update comes after the restart that left the line over
    rcases List.eq_nil_or_concat later' with rfl | ⟨later', e, rfl⟩
    · obtain ⟨-, he⟩ := List.append_inj' heq rfl
      exact nomatch he
    · rw [List.concat_eq_append, ← List.cons_append, ← List.append_assoc] at heq
      obtain ⟨rfl, he⟩ := List.append_inj' heq rfl
      have hlines := hreleased past' start (later' ++ .update inputs services :: later) (by simp)
        ⟨inputs, services, by simp⟩
      exact LinePattern.eq_released_iff.mp hlines line hasserted

/-- A steering governor restarted once and then updated. -/
theorem lines_follow_after_restart :
    let start : LineCalibration := ⟨.steering, Calibration.validate_eq_ok_iff.mp rfl, rfl⟩
    let b : Bench := ⟨⟨some ⟨.steering, .initial .steering⟩⟩, .scripted 0⟩
    let es : List Event := [.restart start, .update { command := 10 } {}]
    Starts b ∧
      ((∀ past inputs services later, es = past ++ .update inputs services :: later →
          (b.run past).Follows inputs services) ↔
        ∀ past start later, es = past ++ .restart start :: later →
          (∃ inputs services, .update inputs services ∈ later) →
          (b.run past).rig.lines = .released) := by
  intro start b es
  have hstarts : Starts b := ⟨⟨some start, init_eq_ok_iff.mpr ⟨start.isValid, rfl⟩⟩, rfl⟩
  exact ⟨hstarts, lines_follow_iff hstarts es⟩

/-- A second episode asserts the primary line, and a restart then loses track of it: the latch is
open after the next update, with the line still asserted. -/
theorem restart_leaves_line_asserted :
    let start : LineCalibration :=
      ⟨{ Calibration.steering with latchClearCycles := 1 },
        Calibration.validate_eq_ok_iff.mp rfl, rfl⟩
    let b : Bench := ⟨⟨some ⟨start.calibration, .initial start.calibration⟩⟩, .scripted 0⟩
    let past : List Event :=
      [.update { command := 1000 } {}, .update { command := 0 } {}, .update { command := 1000 } {},
        .restart start]
    let after := (b.run past).handle (.update { command := 0 } {})
    Starts b ∧ after.Asserted .primary ∧
      after.governor.active.any (fun a => a.state.latch.state = .normal) ∧
      ¬ (b.run past).Follows { command := 0 } {} := by
  intro start b past after
  have hasserted : after.Asserted .primary := by
    show after.rig.lines.get .primary = true
    decide +kernel
  have hact : (b.run past).governor.active =
      some ⟨start.calibration, .initial start.calibration⟩ := rfl
  refine ⟨⟨⟨some start, init_eq_ok_iff.mpr ⟨start.isValid, rfl⟩⟩, rfl⟩, hasserted,
    by decide +kernel, fun hfollows => ?_⟩
  have hcalls := (hfollows ⟨_, by rw [perform_of_active hact]⟩ .primary).mp hasserted
  exact not_calls_first hact { command := 0 } {} hcalls

end Bench

end Governor
end FrontZone
