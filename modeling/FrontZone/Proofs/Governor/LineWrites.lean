import FrontZone.Proofs.Governor.EpisodeStatus
import FrontZone.Proofs.Governor.HeldCycle
/-!
# What a run writes to the disable lines

A cycle writes the lines on which the pattern of its level differs from the pattern in memory, which
is that of the cycle before. So the writes of a run are the changes of the pattern
(`lineWrites_run`), and no line is ever written to what it already is (`isChain_changesFrom`).
Within an episode the level does not move, whatever is found in its cycles (`levelMove_outcome`):
the lines of the level are asserted by the cycle that confirms the fault, released by the one that
clears it and not written in between.
-/

namespace FrontZone

/-! ## Changes of a pattern -/

namespace LinePattern

/-- The lines on which a pattern differs from the one before it, with what they are now. -/
def changes (old new : LinePattern) : List (DisableLine × Bool) :=
  (if new.primary = old.primary then [] else [(.primary, new.primary)]) ++
    if new.secondary = old.secondary then [] else [(.secondary, new.secondary)]

/-- The changes along a sequence of patterns that comes after `old`. -/
def changesFrom : LinePattern → List LinePattern → List (DisableLine × Bool)
  | _, [] => []
  | old, new :: patterns => changes old new ++ changesFrom new patterns

/-- What one line is written to, in order. -/
def writesTo (line : DisableLine) (writes : List (DisableLine × Bool)) : List Bool :=
  (writes.filter (·.1 = line)).map (·.2)

lemma writes_eq_changes (old new : LinePattern) : writes old new = changes old new := by
  unfold writes changes
  by_cases hp : new.primary = old.primary <;> by_cases hs : new.secondary = old.secondary <;>
    simp [get, hp, hs]

lemma writesTo_append (line : DisableLine) (ws ws' : List (DisableLine × Bool)) :
    writesTo line (ws ++ ws') = writesTo line ws ++ writesTo line ws' := by
  rw [writesTo, List.filter_append, List.map_append]
  rfl

/-- A line is among the changes if it has changed, and then once. -/
lemma writesTo_changes (line : DisableLine) (old new : LinePattern) :
    writesTo line (changes old new) =
      if new.get line = old.get line then [] else [new.get line] := by
  unfold writesTo changes
  by_cases hp : new.primary = old.primary <;> by_cases hs : new.secondary = old.secondary <;>
    cases line <;> simp [get, hp, hs]

/-- Along the changes a line is only ever written to what it is not. -/
theorem isChain_changesFrom (line : DisableLine) (old : LinePattern)
    (patterns : List LinePattern) :
    (old.get line :: writesTo line (changesFrom old patterns)).IsChain (· ≠ ·) := by
  induction patterns generalizing old with
  | nil => exact .singleton _
  | cons new patterns ih =>
    rw [changesFrom, writesTo_append, writesTo_changes]
    split
    · next hsame =>
      rw [List.nil_append, ← hsame]
      exact ih new
    · next hchanged => exact .cons_cons (Ne.symm hchanged) (ih new)

end LinePattern

/-! ## On the rig -/

namespace Rig

variable (rig : Rig) (writes : List (DisableLine × Bool))

/-- A line is as it was written last, or as it was if it was not written. -/
lemma get_lines_writeLines (line : DisableLine) :
    (rig.writeLines writes).lines.get line =
      (LinePattern.writesTo line writes).getLast?.getD (rig.lines.get line) := by
  induction writes using List.reverseRecOn with
  | nil => rfl
  | append_singleton ws w ih =>
    have hwrite : rig.writeLines (ws ++ [w]) = (rig.writeLines ws).writeLine w.1 w.2 :=
      List.foldl_concat ..
    have hline : ((rig.writeLines ws).writeLine w.1 w.2).lines.get line =
        if line = w.1 then w.2 else (rig.writeLines ws).lines.get line :=
      LinePattern.get_set ..
    rw [hwrite, hline, LinePattern.writesTo_append, ih]
    by_cases h : w.1 = line
    · simp [LinePattern.writesTo, h]
    · simp [LinePattern.writesTo, h, Ne.symm h]

/-- The record of line writes keeps the newest. -/
lemma lineWrites_writeLines (hrecord : rig.lineWrites.length ≤ maxLineWrites) :
    (rig.writeLines writes).lineWrites = lastN maxLineWrites (rig.lineWrites ++ writes) := by
  have hfold : (rig.writeLines writes).lineWrites =
      writes.foldl (pushRecent maxLineWrites) rig.lineWrites := by
    clear hrecord
    induction writes generalizing rig with
    | nil => rfl
    | cons w ws ih => exact ih (rig.writeLine w.1 w.2)
  have hnewest : rig.lineWrites = lastN maxLineWrites rig.lineWrites := by
    rw [lastN, Nat.sub_eq_zero_of_le hrecord, List.drop_zero]
  rw [hfold, hnewest, foldl_pushRecent, ← hnewest]

end Rig

/-! ## The level of an episode -/

/-- Whether a transition ends an episode. -/
def LatchTransition.closes : LatchTransition → Bool
  | cleared _ => true
  | _ => false

/-- Whether a transition goes on with what there is, be it an episode or none. -/
def LatchTransition.GoesOn (t : LatchTransition) : Prop :=
  ¬ t.opens ∧ ¬ t.closes

instance (t : LatchTransition) : Decidable t.GoesOn :=
  inferInstanceAs (Decidable (_ ∧ _))

namespace Latch

/-- What a transition does to the levels of a latch: of the episode it is in and of the newest. -/
inductive LevelMove (l l' : Latch) : LatchTransition → Prop where
  | confirm {level : UInt8} {fault : FaultCode} (hopen : l.activeLevel = 0)
    (hlevel : level = nextLevel l.disableLevel) (hactive : l'.activeLevel = level)
    (hnewest : l'.disableLevel = level) : LevelMove l l' (.confirmed level fault)
  | clear {fault : FaultCode} (hactive : l'.activeLevel = 0)
    (hnewest : l'.disableLevel = l.disableLevel) : LevelMove l l' (.cleared fault)
  | keep {t : LatchTransition} (ht : t.GoesOn) (hactive : l'.activeLevel = l.activeLevel)
    (hnewest : l'.disableLevel = l.disableLevel) : LevelMove l l' t

variable {l l' : Latch} {t : LatchTransition}

/-- Counting without a fault ends the episode or leaves it at its level. -/
lemma levelMove_countClear (fault : FaultCode) (count : UInt16) :
    let next := countClear l.clearCycles l.activeLevel fault count
    LevelMove l { l with state := next.1 } next.2 := by
  unfold countClear
  split
  · exact .clear rfl rfl
  · exact .keep ⟨Bool.false_ne_true, Bool.false_ne_true⟩ rfl rfl

/-- Every step moves the levels so. -/
theorem levelMove_step (l : Latch) (condition : Option FaultCode) :
    LevelMove l (l.step condition).1 (l.step condition).2 := by
  cases hstate : l.state with
  | normal =>
    have hzero : l.activeLevel = 0 := by simp only [activeLevel, hstate]
    cases condition with
    | none =>
      simp only [step, hstate]
      exact .keep (by decide) rfl rfl
    | some fault =>
      simp only [step, hstate]
      exact .confirm hzero rfl rfl rfl
  | faulted level old =>
    have hlevel : l.activeLevel = level := by simp only [activeLevel, hstate]
    cases condition with
    | none =>
      simp only [step, hstate, ← hlevel]
      exact levelMove_countClear old 1
    | some fault =>
      simp only [step, hstate]
      refine .keep ?_ hlevel.symm rfl
      split <;> exact ⟨Bool.false_ne_true, Bool.false_ne_true⟩
  | clearing level old count =>
    have hlevel : l.activeLevel = level := by simp only [activeLevel, hstate]
    cases condition with
    | none =>
      simp only [step, hstate, ← hlevel]
      exact levelMove_countClear old _
    | some fault =>
      simp only [step, hstate]
      exact .keep ⟨Bool.false_ne_true, Bool.false_ne_true⟩ hlevel.symm rfl

end Latch

namespace Governor

variable {c : Calibration} {s : State} {g : Governor} {k : Call} {ks : List Call}

/-- A cycle moves the levels by the transition it reports; an override reports none. -/
theorem levelMove_outcome (c : Calibration) (s : State) (k : Call) :
    s.latch.LevelMove (k.outcome c s).state.latch (k.outcome c s).report.transition := by
  by_cases h : k.inputs.isOverride
  · have hnone : (k.outcome c s).report.transition = .none := by
      rw [Call.outcome_of_override h]
      rfl
    rw [state_of_override h, hnone]
    exact .keep (by decide) rfl rfl
  · rw [state_of_governed h, governedState_eq, transition_of_governed h]
    exact Latch.levelMove_step ..

/-- What a rig shows of writes to the lines, and of one write to the drive, since it was as
`before`: every line as it was written last and the newest of all writes on record. -/
structure WrittenOut (before after : Rig) (writes : List (DisableLine × Bool))
    (duty : UInt16) : Prop extends DrivenOnce before after duty where
  line_eq : ∀ line, after.lines.get line =
    (LinePattern.writesTo line writes).getLast?.getD (before.lines.get line)
  lineWrites_eq : before.lineWrites.length ≤ maxLineWrites →
    after.lineWrites = lastN maxLineWrites (before.lineWrites ++ writes)

/-- What a cycle decided shows on the rig when it is carried out. -/
lemma writtenOut_onRig (o : Outcome) (c : Calibration) (inputs : CycleInputs) (rig : Rig) :
    WrittenOut rig (o.onRig (sense c inputs rig).1) o.lineWrites o.report.duty := by
  obtain ⟨hlines, hrecord, -, -⟩ := sense_outputs c inputs rig
  refine ⟨drivenOnce_onRig o c inputs rig, fun line => ?_, fun hlength => ?_⟩
  · rw [← hlines]
    exact Rig.get_lines_writeLines _ _ line
  · rw [← hrecord] at hlength ⊢
    exact Rig.lineWrites_writeLines _ _ hlength

/-! ## Along a run -/

namespace State

/-- What a run of updates writes to the disable lines, in order. -/
def lineWrites (c : Calibration) (s : State) (ks : List Call) : List (DisableLine × Bool) :=
  (s.outcomes c ks).flatMap (·.lineWrites)

/-- The pattern of the level after each update of a run. -/
def patterns (c : Calibration) (s : State) (ks : List Call) : List LinePattern :=
  (s.outcomes c ks).map fun o => .ofLevel o.state.latch.activeLevel

/-- The transitions that the updates of a run report. -/
def transitions (c : Calibration) (s : State) (ks : List Call) : List LatchTransition :=
  (s.reports c ks).map (·.transition)

lemma lineWrites_cons (c : Calibration) (s : State) (k : Call) (ks : List Call) :
    s.lineWrites c (k :: ks) =
      (k.outcome c s).lineWrites ++ (k.outcome c s).state.lineWrites c ks := rfl

lemma lineWrites_concat (c : Calibration) (s : State) (ks : List Call) (k : Call) :
    s.lineWrites c (ks ++ [k]) = s.lineWrites c ks ++ (k.outcome c (s.run c ks)).lineWrites := by
  rw [lineWrites, outcomes_concat, List.flatMap_append, List.flatMap_singleton]
  rfl

lemma patterns_cons (c : Calibration) (s : State) (k : Call) (ks : List Call) :
    s.patterns c (k :: ks) =
      .ofLevel (k.outcome c s).state.latch.activeLevel ::
        (k.outcome c s).state.patterns c ks := rfl

lemma transitions_cons (c : Calibration) (s : State) (k : Call) (ks : List Call) :
    s.transitions c (k :: ks) =
      (k.outcome c s).report.transition :: (k.outcome c s).state.transitions c ks := rfl

lemma transitions_concat (c : Calibration) (s : State) (ks : List Call) (k : Call) :
    s.transitions c (ks ++ [k]) =
      s.transitions c ks ++ [(k.outcome c (s.run c ks)).report.transition] := by
  rw [transitions, reports_concat, List.map_append]
  rfl

end State

/-- A governor with disable lines remembers the pattern of its level. -/
lemma lines_run (hc : c.escalation = .disableLines) (ks : List Call) :
    ((State.initial c).run c ks).lines =
      .ofLevel ((State.initial c).run c ks).latch.activeLevel := by
  rcases List.eq_nil_or_concat ks with rfl | ⟨past, k, rfl⟩
  · rfl
  · rw [List.concat_eq_append, State.run_concat]
    exact lines_eq_ofLevel hc _ k

/-- Wherever the memory is right at the start, a run writes the changes of the pattern. -/
theorem lineWrites_run (hc : c.escalation = .disableLines)
    (hlines : s.lines = .ofLevel s.latch.activeLevel) (ks : List Call) :
    s.lineWrites c ks = LinePattern.changesFrom s.lines (s.patterns c ks) := by
  induction ks generalizing s with
  | nil => rfl
  | cons k ks ih =>
    -- the cycle leaves the memory right, which is what the rest of the run starts from
    have hnext := lines_eq_ofLevel hc s k
    rw [State.lineWrites_cons, State.patterns_cons, LinePattern.changesFrom, ih hnext, lineWrites_eq,
      LinePattern.writes_eq_changes, hnext]

/-- The newest level counts the episodes, up to the largest. -/
lemma disableLevel_run (c : Calibration) (ks : List Call) :
    ((State.initial c).run c ks).latch.disableLevel.toNat =
      min 3 (((State.initial c).transitions c ks).countP (·.opens)) := by
  induction ks using List.reverseRecOn with
  | nil => rfl
  | append_singleton ks k ih =>
    rw [State.run_concat, State.transitions_concat, List.countP_append, List.countP_singleton]
    have hmove := levelMove_outcome c ((State.initial c).run c ks) k
    generalize (k.outcome c ((State.initial c).run c ks)).report.transition = t at hmove
    cases hmove with
    | confirm hopen hlevel hactive hnewest =>
      rw [hnewest, hlevel]
      exact Latch.toNat_nextLevel ih
    | clear hactive hnewest =>
      rw [hnewest]
      exact ih
    | keep ht hactive hnewest =>
      rw [hnewest, if_neg ht.1]
      exact ih

/-! ## Episodes -/

/-- The transitions of one episode of a level, from the fault that begins it to its end. -/
def IsEpisode (level : UInt8) (ts : List LatchTransition) : Prop :=
  ∃ fault mid last, ts = .confirmed level fault :: (mid ++ [.cleared last]) ∧ ∀ t ∈ mid, ¬ t.closes

/-- As long as transitions go on with what there is, the level stays and no line is written. -/
theorem lineWrites_of_goesOn (hc : c.escalation = .disableLines)
    (hlines : s.lines = .ofLevel s.latch.activeLevel) (h : ∀ t ∈ s.transitions c ks, t.GoesOn) :
    s.lineWrites c ks = [] ∧ (s.run c ks).latch.activeLevel = s.latch.activeLevel ∧
      (s.run c ks).lines = s.lines := by
  induction ks using List.reverseRecOn with
  | nil => exact ⟨rfl, rfl, rfl⟩
  | append_singleton ks k ih =>
    rw [State.transitions_concat] at h
    obtain ⟨hwrites, hlevel, hsame⟩ := ih fun t ht => h t (List.mem_append_left _ ht)
    have ht := h _ (List.mem_append_right _ List.mem_cons_self)
    have hkept : (k.outcome c (s.run c ks)).state.latch.activeLevel =
        (s.run c ks).latch.activeLevel := by
      have hmove := levelMove_outcome c (s.run c ks) k
      generalize (k.outcome c (s.run c ks)).report.transition = t at hmove ht
      cases hmove with
      | confirm => exact absurd rfl ht.1
      | clear => exact absurd rfl ht.2
      | keep _ hactive _ => exact hactive
    -- the level has not moved since the start, and the memory goes with it
    have hstill : (k.outcome c (s.run c ks)).state.lines = s.lines := by
      rw [lines_eq_ofLevel hc, hkept, hlevel, hlines]
    rw [State.lineWrites_concat, State.run_concat, hwrites, lineWrites_eq, hsame, hstill,
      LinePattern.writes_self]
    exact ⟨rfl, hkept.trans hlevel, rfl⟩

/-- No episode begins in another: until it ends its transitions go on with it. -/
lemma goesOn_of_engaged (hactive : s.latch.activeLevel ≠ 0)
    (h : ∀ t ∈ s.transitions c ks, ¬ t.closes) : ∀ t ∈ s.transitions c ks, t.GoesOn := by
  induction ks generalizing s with
  | nil => exact fun _ ht => nomatch ht
  | cons k ks ih =>
    rw [State.transitions_cons, List.forall_mem_cons] at h ⊢
    obtain ⟨hfirst, hrest⟩ := h
    have hmove := levelMove_outcome c s k
    generalize (k.outcome c s).report.transition = t at hmove hfirst
    cases hmove with
    | confirm hopen => exact absurd hopen hactive
    | clear => exact absurd rfl hfirst
    | keep ht hsame _ => exact ⟨ht, ih (hsame ▸ hactive) hrest⟩

/-- The cycle that confirms a fault finds the lines released and asserts those of the new level. -/
lemma lineWrites_of_confirmed {level : UInt8} {fault : FaultCode}
    (hc : c.escalation = .disableLines) (hlines : s.lines = .ofLevel s.latch.activeLevel)
    (ht : (k.outcome c s).report.transition = .confirmed level fault) :
    level = Latch.nextLevel s.latch.disableLevel ∧
      (k.outcome c s).state.latch.activeLevel = level ∧
      (k.outcome c s).lineWrites = LinePattern.changes .released (.ofLevel level) := by
  have hmove := levelMove_outcome c s k
  rw [ht] at hmove
  cases hmove with
  | confirm hopen hlevel hactive _ =>
    refine ⟨hlevel, hactive, ?_⟩
    rw [lineWrites_eq, lines_eq_ofLevel hc, hactive, hlines, hopen, LinePattern.writes_eq_changes]
    rfl
  | keep hgoes _ _ => exact absurd rfl hgoes.1

/-- The cycle that clears a fault releases the lines that are asserted. -/
lemma lineWrites_of_cleared {fault : FaultCode} (hc : c.escalation = .disableLines)
    (ht : (k.outcome c s).report.transition = .cleared fault) :
    (k.outcome c s).lineWrites = LinePattern.changes s.lines .released := by
  have hmove := levelMove_outcome c s k
  rw [ht] at hmove
  cases hmove with
  | clear hactive _ =>
    rw [lineWrites_eq, lines_eq_ofLevel hc, hactive, LinePattern.writes_eq_changes]
    rfl
  | keep hgoes _ _ => exact absurd rfl hgoes.2

/-- An episode asserts the lines of its level when it begins and releases them when it ends. -/
theorem IsEpisode.lineWrites_eq {level : UInt8} {n : Nat} (hc : c.escalation = .disableLines)
    (hlines : s.lines = .ofLevel s.latch.activeLevel) (hn : s.latch.disableLevel.toNat = min 3 n)
    (h : IsEpisode level (s.transitions c ks)) :
    level.toNat = min 3 (n + 1) ∧
      s.lineWrites c ks = LinePattern.changes .released (.ofLevel level) ++
        LinePattern.changes (.ofLevel level) .released := by
  obtain ⟨fault, mid, last, hts, hmid⟩ := h
  -- the updates are one for the fault, those between and one for the end
  cases ks with
  | nil => exact nomatch hts
  | cons k ks =>
    rw [State.transitions_cons] at hts
    obtain ⟨hfirst, hrest⟩ := List.cons_eq_cons.mp hts
    obtain ⟨hnext, hactive, hasserts⟩ := lineWrites_of_confirmed hc hlines hfirst
    have hlevel : level.toNat = min 3 (n + 1) := by
      rw [hnext]
      exact Latch.toNat_nextLevel hn
    have hpos : level ≠ 0 := by
      intro hzero
      rw [hzero, UInt8.toNat_zero] at hlevel
      omega
    rcases List.eq_nil_or_concat ks with rfl | ⟨between, k', rfl⟩
    · exact absurd hrest.symm (List.append_ne_nil_of_right_ne_nil _ (List.cons_ne_nil _ _))
    · rw [List.concat_eq_append, State.transitions_concat] at hrest
      obtain ⟨hbetween, hlast⟩ := List.append_inj' hrest rfl
      have hgoes := goesOn_of_engaged (hactive.symm ▸ hpos) (hbetween ▸ hmid)
      obtain ⟨hnothing, -, hstill⟩ := lineWrites_of_goesOn hc (lines_eq_ofLevel hc s k) hgoes
      have hreleases := lineWrites_of_cleared hc (List.singleton_inj.mp hlast)
      refine ⟨hlevel, ?_⟩
      rw [List.concat_eq_append, State.lineWrites_cons, State.lineWrites_concat, hasserts, hnothing,
        hreleases, hstill, lines_eq_ofLevel hc, hactive, List.nil_append]

/-- Whatever happens to a governor with disable lines between its updates, it writes the changes of
the pattern of its level and nothing else. So on every line assertions and releases alternate, no
line is written while transitions go on with what there is, and an episode writes the lines of its
level once on and once off. -/
theorem lines_written_on_change (hg : init (some c) = .ok g) (hc : c.escalation = .disableLines)
    (ks : List Call) :
    let s := State.initial c
    (∀ n k, ks[n]? = some k → ∃ o, (s.outcomes c ks)[n]? = some o ∧
        (g.run ((ks.take n).map .update)).perform k =
          { governor := ⟨some ⟨c, o.state⟩⟩
            rig := ((sense c k.inputs k.rig).1.writeLines o.lineWrites).writeDuty o.report.duty
            services := o.onServices k.services
            report := .ok o.report } ∧
        WrittenOut k.rig ((g.run ((ks.take n).map .update)).perform k).rig o.lineWrites
          o.report.duty) ∧
      s.lineWrites c ks = LinePattern.changesFrom .released (s.patterns c ks) ∧
      (∀ line, (false :: LinePattern.writesTo line (s.lineWrites c ks)).IsChain (· ≠ ·)) ∧
      ∀ past during,
        let ts := (s.run c past).transitions c during
        let writes := (s.run c past).lineWrites c during
        ((∀ t ∈ ts, t.GoesOn) → writes = []) ∧
          ∀ level, IsEpisode level ts →
            level.toNat = min 3 ((s.transitions c past).countP (·.opens) + 1) ∧
              (level = 1 → writes = []) ∧
              (level = 2 → writes = [(.primary, true), (.primary, false)]) ∧
              (3 ≤ level → writes = [(.primary, true), (.secondary, true), (.primary, false),
                (.secondary, false)]) := by
  intro s
  obtain ⟨-, rfl⟩ := init_eq_ok_iff.mp hg
  have hwrites : s.lineWrites c ks = LinePattern.changesFrom .released (s.patterns c ks) :=
    lineWrites_run hc rfl ks
  refine ⟨fun n k hk => ?_, hwrites, fun line => ?_, fun past during => ?_⟩
  · have hact : (run ⟨some ⟨c, s⟩⟩ ((ks.take n).map .update)).active =
        some ⟨c, s.run c (ks.take n)⟩ := run_updates rfl (ks.take n)
    have hperform := perform_of_active hact k
    refine ⟨k.outcome c (s.run c (ks.take n)), ?_, hperform, ?_⟩
    · rw [State.getElem?_outcomes, hk]
      rfl
    · rw [hperform]
      exact writtenOut_onRig _ c k.inputs k.rig
  · rw [hwrites]
    have hfirst : LinePattern.released.get line = false := by cases line <;> rfl
    rw [← hfirst]
    exact LinePattern.isChain_changesFrom line .released _
  · have hlines := lines_run hc past
    refine ⟨fun hgoes => (lineWrites_of_goesOn hc hlines hgoes).1, fun level hepisode => ?_⟩
    obtain ⟨hlevel, hwritten⟩ := hepisode.lineWrites_eq hc hlines (disableLevel_run c past)
    refine ⟨hlevel, fun h => ?_, fun h => ?_, fun h => ?_⟩
    · subst h
      exact hwritten
    · subst h
      exact hwritten
    · have hboth : LinePattern.ofLevel level = ⟨true, true⟩ :=
        congrArg₂ LinePattern.mk (decide_eq_true (UInt8.le_trans (by decide) h)) (decide_eq_true h)
      rw [hboth] at hwritten
      exact hwritten

/-- Three episodes of a steering governor, the second with another kind of fault, an emergency stop
on either side and a relapse. -/
theorem relapsing_episode_writes_once :
    let c := { Calibration.steering with latchClearCycles := 2 }
    let g : Governor := ⟨some ⟨c, .initial c⟩⟩
    let call (command : Int32) : Call := ⟨{ command }, .scripted 0, {}⟩
    let blind : Call := ⟨{ command := 0 }, (Rig.scripted 0).disturb { failReads := true }, {}⟩
    let stop : Call := ⟨{ command := 0, emergencyStop := true }, .scripted 0, {}⟩
    let first := [call 1000, call 0, call 0]
    let second := [call 1000, blind, stop, call 0, call 1000, call 0, stop, call 0]
    let mid : List LatchTransition :=
      [.reconfirmed .sensorFail, .none, .none, .relapsed .outOfRange, .none, .none]
    let s := (State.initial c).run c first
    init (some c) = .ok g ∧ c.escalation = .disableLines ∧
      s.transitions c second = .confirmed 2 .outOfRange :: (mid ++ [.cleared .outOfRange]) ∧
      (State.initial c).lineWrites c first = [] ∧
      s.lineWrites c second = [(.primary, true), (.primary, false)] ∧
      (s.run c second).lineWrites c first =
        [(.primary, true), (.secondary, true), (.primary, false), (.secondary, false)] := by
  intro c g call blind stop first second mid s
  have hg : init (some c) = .ok g := rfl
  have hts : s.transitions c second =
      .confirmed 2 .outOfRange :: (mid ++ [.cleared .outOfRange]) := by decide +kernel
  have hfirst : IsEpisode 1 ((State.initial c).transitions c first) :=
    ⟨.outOfRange, [.none], .outOfRange, by decide +kernel, by decide⟩
  have hsecond : IsEpisode 2 (s.transitions c second) :=
    ⟨.outOfRange, mid, .outOfRange, hts, by decide⟩
  have hthird : IsEpisode 3 (((State.initial c).run c (first ++ second)).transitions c first) :=
    ⟨.outOfRange, [.none], .outOfRange, by decide +kernel, by decide⟩
  obtain ⟨-, -, -, hepisodes⟩ := lines_written_on_change hg rfl (first ++ second ++ first)
  obtain ⟨-, hnothing, -, -⟩ := (hepisodes [] first).2 1 hfirst
  obtain ⟨-, -, hprimary, -⟩ := (hepisodes first second).2 2 hsecond
  obtain ⟨-, -, -, hboth⟩ := (hepisodes (first ++ second) first).2 3 hthird
  rw [State.run, List.foldl_append] at hboth
  exact ⟨hg, rfl, hts, hnothing rfl, hprimary rfl, hboth (UInt8.le_refl 3)⟩

end Governor
end FrontZone
