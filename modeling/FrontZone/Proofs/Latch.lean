import FrontZone.Latch
import FrontZone.Proofs.History
/-!
# The fault latch in closed form

A latch is a machine with three states, a counter and a level that never falls. Over the history of
conditions it was fed it needs none of them: with a window of `w` conditions it holds a fault as
long as one of the newest `w` conditions was a fault, and its level counts the faults that came
after `w` conditions without one. `AfterHistory` is the machine in these terms and
`afterHistory_run` says that every run is in it; `latch_closed_form` spells out what can be seen of
the latch.
-/

namespace FrontZone
namespace Latch

variable {clearCycles : UInt16} {cs : List (Option FaultCode)} {c : Option FaultCode} {l : Latch}

/-- The latch after a history of conditions. -/
def run (l : Latch) (cs : List (Option FaultCode)) : Latch :=
  cs.foldl (fun l c => (l.step c).1) l

lemma run_concat (l : Latch) (cs : List (Option FaultCode)) (c : Option FaultCode) :
    l.run (cs ++ [c]) = ((l.run cs).step c).1 :=
  List.foldl_concat ..

/-! ## One step -/

/-- A step ends faulted exactly if it was fed a fault. -/
lemma step_faulted_iff {fault : FaultCode} :
    (∃ level, (l.step c).1.state = .faulted level fault) ↔ c = some fault := by
  obtain ⟨w, state, disableLevel⟩ := l
  cases state <;> cases c <;> simp [step, countClear] <;> split <;> simp

/-- The latch after a step tells which condition it was fed. -/
theorem step_injective {a b : Option FaultCode} (h : (l.step a).1 = (l.step b).1) : a = b := by
  apply Option.ext
  intro fault
  rw [← step_faulted_iff (l := l) (c := a), ← step_faulted_iff (l := l) (c := b), h]

/-- What a step can do, by whether the latch holds a fault before and after it. -/
inductive Move (l : Latch) : Option FaultCode → Latch → LatchTransition → Prop where
  /-- Nothing happens to an open latch without a fault. -/
  | idle (hopen : ¬ l.isEngaged) : Move l none l .none
  | confirm {l' : Latch} {level : UInt8} {fault : FaultCode} (hopen : ¬ l.isEngaged)
    (hafter : l'.isEngaged) (hfault : l'.fault = fault) :
    Move l (some fault) l' (.confirmed level fault)
  /-- The fault that is held goes on. -/
  | stay {l' : Latch} {fault : FaultCode} (hbefore : l.isEngaged) (hsame : l.fault = fault)
    (hafter : l'.isEngaged) (hfault : l'.fault = fault) : Move l (some fault) l' .none
  | reconfirm {l' : Latch} {fault : FaultCode} (hbefore : l.isEngaged) (hafter : l'.isEngaged)
    (hfault : l'.fault = fault) : Move l (some fault) l' (.reconfirmed fault)
  | relapse {l' : Latch} {fault : FaultCode} (hbefore : l.isEngaged) (hafter : l'.isEngaged)
    (hfault : l'.fault = fault) : Move l (some fault) l' (.relapsed fault)
  /-- The latch goes on holding a fault that is gone. -/
  | wait {l' : Latch} (hbefore : l.isEngaged) (hafter : l'.isEngaged) (hfault : l'.fault = l.fault) :
    Move l none l' .none
  | clear {l' : Latch} {fault : FaultCode} (hbefore : l.isEngaged) (hafter : ¬ l'.isEngaged) :
    Move l none l' (.cleared fault)

/-- Counting without a fault makes a latch that is engaged wait or clear. -/
lemma move_countClear (hbefore : l.isEngaged) (level : UInt8) (count : UInt16) :
    let next := countClear l.clearCycles level l.fault count
    Move l none { l with state := next.1 } next.2 := by
  unfold countClear
  split
  · exact .clear hbefore (by simp [isEngaged])
  · exact .wait hbefore (by simp [isEngaged]) rfl

/-- Every step is one of these moves. -/
theorem move_step (l : Latch) (c : Option FaultCode) : Move l c (l.step c).1 (l.step c).2 := by
  cases hstate : l.state with
  | normal =>
    have hopen : ¬ l.isEngaged := by simp [isEngaged, hstate]
    cases c with
    | none =>
      simp only [step, hstate]
      exact .idle hopen
    | some fault =>
      simp only [step, hstate]
      exact .confirm hopen (by simp [isEngaged]) rfl
  | faulted level old =>
    have hbefore : l.isEngaged := by simp [isEngaged, hstate]
    have hold : l.fault = old := by simp only [Latch.fault, hstate]
    cases c with
    | none =>
      simp only [step, hstate, ← hold]
      exact move_countClear hbefore level 1
    | some fault =>
      simp only [step, hstate]
      split
      · next hsame => exact .stay hbefore (hold.trans hsame.symm) (by simp [isEngaged]) rfl
      · exact .reconfirm hbefore (by simp [isEngaged]) rfl
  | clearing level old count =>
    have hbefore : l.isEngaged := by simp [isEngaged, hstate]
    have hold : l.fault = old := by simp only [Latch.fault, hstate]
    cases c with
    | none =>
      simp only [step, hstate, ← hold]
      exact move_countClear hbefore level _
    | some fault =>
      simp only [step, hstate]
      exact .relapse hbefore (by simp [isEngaged]) rfl

/-! ## Histories of conditions -/

/-- How many conditions in a row without a fault open the latch; at least one is needed. -/
def window (clearCycles : UInt16) : Nat :=
  max clearCycles.toNat 1

/-- Whether one of the newest `w` conditions is a fault. -/
def Holds (w : Nat) (cs : List (Option FaultCode)) : Prop :=
  ∃ c ∈ lastN w cs, c.isSome

/-- The newest fault of a history. -/
def newestFault (cs : List (Option FaultCode)) : Option FaultCode :=
  (cs.filterMap id).getLast?

/-- How many conditions at the end of a history are no faults. -/
def clearStreak (cs : List (Option FaultCode)) : Nat :=
  streak Option.isNone cs

instance (w : Nat) (cs : List (Option FaultCode)) : Decidable (Holds w cs) :=
  inferInstanceAs (Decidable (∃ c ∈ lastN w cs, c.isSome))

/-- Whether a condition that comes after `past` opens an episode. -/
def Begins (w : Nat) (past : List (Option FaultCode)) (c : Option FaultCode) : Prop :=
  c.isSome ∧ ¬ Holds w past

instance (w : Nat) (past : List (Option FaultCode)) (c : Option FaultCode) :
    Decidable (Begins w past c) :=
  inferInstanceAs (Decidable (_ ∧ _))

/-- How many conditions of a history open an episode. -/
def episodes (w : Nat) (cs : List (Option FaultCode)) : Nat :=
  (withPast cs).countP fun p => Begins w p.1 p.2

lemma window_pos (clearCycles : UInt16) : 0 < window clearCycles := by
  unfold window
  omega

@[simp] lemma newestFault_nil : newestFault [] = none := rfl

lemma newestFault_concat (cs : List (Option FaultCode)) (c : Option FaultCode) :
    newestFault (cs ++ [c]) = c.or (newestFault cs) := by
  cases c <;> simp [newestFault]

lemma clearStreak_concat (cs : List (Option FaultCode)) (c : Option FaultCode) :
    clearStreak (cs ++ [c]) = if c.isNone then clearStreak cs + 1 else 0 :=
  streak_concat ..

lemma episodes_concat (w : Nat) (cs : List (Option FaultCode)) (c : Option FaultCode) :
    episodes w (cs ++ [c]) = episodes w cs + if Begins w cs c then 1 else 0 := by
  rw [episodes, withPast_concat, List.countP_append, List.countP_singleton]
  simp [episodes]

/-- No fault in the window: none at all, or the clear streak has filled it. -/
lemma not_holds_iff {w : Nat} :
    ¬ Holds w cs ↔ newestFault cs = none ∨ w ≤ clearStreak cs := by
  have hnone : newestFault cs = none ↔ ∀ c ∈ cs, c.isNone := by
    simp [newestFault]
  rw [clearStreak, le_streak_iff, hnone]
  have hwin : ¬ Holds w cs ↔ ∀ c ∈ lastN w cs, c.isNone := by
    simp [Holds]
  rw [hwin]
  constructor
  · intro h
    rcases Nat.le_total w cs.length with hw | hw
    · exact Or.inr ⟨hw, h⟩
    · rw [lastN_of_length_le hw] at h
      exact Or.inl h
  · intro h'
    rcases h' with h | ⟨-, h⟩
    · exact fun c hc => h c (List.mem_of_mem_drop hc)
    · exact h

/-- The last condition is no fault exactly if there is a clear streak. -/
lemma getLast?_eq_none_iff : cs.getLast? = some none ↔ 0 < clearStreak cs := by
  induction cs using List.reverseRecOn with
  | nil => simp [clearStreak]
  | append_singleton cs c _ =>
    rw [List.getLast?_concat, clearStreak_concat]
    cases c <;> simp

/-- The last condition is a fault exactly if that fault is the newest and there is no clear streak.
-/
lemma getLast?_eq_some_iff {fault : FaultCode} :
    cs.getLast? = some (some fault) ↔ newestFault cs = some fault ∧ clearStreak cs = 0 := by
  induction cs using List.reverseRecOn with
  | nil => simp
  | append_singleton cs c _ =>
    rw [List.getLast?_concat, newestFault_concat, clearStreak_concat]
    cases c <;> simp

/-- A fault and then `n` conditions without one end a history exactly if the fault is its newest and
the clear streak is `n` long. -/
lemma lastN_eq_fault_cons_iff {fault : FaultCode} {n : Nat} :
    lastN (n + 1) cs = some fault :: List.replicate n none ↔
      newestFault cs = some fault ∧ clearStreak cs = n := by
  induction cs using List.reverseRecOn generalizing n with
  | nil => simp [lastN]
  | append_singleton cs c ih =>
    rw [lastN_concat, newestFault_concat, clearStreak_concat]
    cases n with
    | zero =>
      rw [lastN_zero, List.replicate_zero]
      cases c <;> simp
    | succ n =>
      rw [List.replicate_succ', ← List.cons_append, List.append_singleton_inj, ih]
      cases c <;> simp

/-- A window that is not empty holds a fault that has just come. -/
lemma holds_of_getLast? {w : Nat} (hw : 0 < w) {fault : FaultCode}
    (h : cs.getLast? = some (some fault)) : Holds w cs := by
  obtain ⟨hf, hz⟩ := getLast?_eq_some_iff.mp h
  by_contra hh
  rcases not_holds_iff.mp hh with hnone | hge
  · rw [hnone] at hf
    exact nomatch hf
  · omega

/-- Within the window the clear streak is short of it. -/
lemma clearStreak_lt_of_holds {w : Nat} (h : Holds w cs) : clearStreak cs < w := by
  by_contra hge
  exact not_holds_iff.mpr (Or.inr (Nat.le_of_not_lt hge)) h

/-! ## The machine over its history -/

/-- Where a latch of level `level` stands after a history. -/
def stateAfter (w : Nat) (level : UInt8) (cs : List (Option FaultCode)) : LatchState :=
  match newestFault cs with
  | none => .normal
  | some fault =>
    if clearStreak cs = 0 then .faulted level fault
    else if clearStreak cs < w then .clearing level fault (UInt16.ofNat (clearStreak cs))
    else .normal

/-- A fault leaves the latch faulted. -/
lemma stateAfter_concat_some (w : Nat) (level : UInt8) (cs : List (Option FaultCode))
    (fault : FaultCode) : stateAfter w level (cs ++ [some fault]) = .faulted level fault := by
  rw [stateAfter, newestFault_concat, clearStreak_concat]
  rfl

/-- A condition without a fault leaves the latch clearing until the window is filled. -/
lemma stateAfter_concat_none (w : Nat) (level : UInt8) (cs : List (Option FaultCode)) :
    stateAfter w level (cs ++ [none]) =
      match newestFault cs with
      | none => .normal
      | some fault =>
        if w ≤ clearStreak cs + 1 then .normal
        else .clearing level fault (UInt16.ofNat (clearStreak cs + 1)) := by
  have hstreak : clearStreak (cs ++ [none]) = clearStreak cs + 1 := by
    rw [clearStreak_concat]
    rfl
  rw [stateAfter, newestFault_concat, Option.none_or, hstreak]
  cases newestFault cs with
  | none => rfl
  | some fault =>
    dsimp only
    rw [if_neg (Nat.succ_ne_zero _)]
    by_cases hw : w ≤ clearStreak cs + 1
    · rw [if_pos hw, if_neg (by omega)]
    · rw [if_neg hw, if_pos (by omega)]

/-- A history leaves a latch open, faulted or clearing, and the first only outside the window. -/
lemma phase_cases {w : Nat} (hw : 0 < w) (cs : List (Option FaultCode)) :
    (¬ Holds w cs ∧ ∀ level, stateAfter w level cs = .normal) ∨
      ∃ fault, newestFault cs = some fault ∧ Holds w cs ∧
        (clearStreak cs = 0 ∧ (∀ level, stateAfter w level cs = .faulted level fault) ∨
          0 < clearStreak cs ∧ clearStreak cs < w ∧ ∀ level,
            stateAfter w level cs = .clearing level fault (UInt16.ofNat (clearStreak cs))) := by
  by_cases hh : Holds w cs
  · right
    have hin : ¬ (newestFault cs = none ∨ w ≤ clearStreak cs) := fun h => not_holds_iff.mpr h hh
    rw [not_or, Nat.not_le, ← ne_eq, Option.ne_none_iff_exists'] at hin
    obtain ⟨⟨fault, hf⟩, hlt⟩ := hin
    refine ⟨fault, hf, hh, ?_⟩
    unfold stateAfter
    rw [hf]
    rcases Nat.eq_zero_or_pos (clearStreak cs) with hz | hpos
    · exact Or.inl ⟨hz, fun _ => if_pos hz⟩
    · refine Or.inr ⟨hpos, hlt, fun _ => ?_⟩
      dsimp only
      rw [if_neg (by omega), if_pos hlt]
  · left
    refine ⟨hh, fun level => ?_⟩
    unfold stateAfter
    rcases not_holds_iff.mp hh with hf | hge
    · rw [hf]
    · split
      · rfl
      · rw [if_neg (by omega), if_neg (by omega)]

/-- A latch as its history leaves it. -/
structure AfterHistory (clearCycles : UInt16) (cs : List (Option FaultCode)) (l : Latch) : Prop where
  clearCycles_eq : l.clearCycles = clearCycles
  state_eq : l.state = stateAfter (window clearCycles) l.disableLevel cs
  level_eq : l.disableLevel.toNat = min 3 (episodes (window clearCycles) cs)

/-- The level of the next episode, up to the largest. -/
lemma toNat_nextLevel {level : UInt8} {n : Nat} (h : level.toNat = min 3 n) :
    (nextLevel level).toNat = min 3 (n + 1) := by
  have hmax : maxDisableLevel.toNat = 3 := rfl
  have hsucc : (level + 1).toNat = level.toNat + 1 := by
    rw [UInt8.toNat_add, UInt8.toNat_one]
    omega
  show (if level + 1 ≤ maxDisableLevel then level + 1 else maxDisableLevel).toNat = _
  split
  · next hle =>
    rw [UInt8.le_iff_toNat_le, hsucc, hmax] at hle
    omega
  · next hle =>
    rw [UInt8.le_iff_toNat_le, hsucc, hmax] at hle
    omega

/-- A clear count reaches the calibrated number when the clear streak fills the window. -/
lemma countClear_eq {level : UInt8} {fault : FaultCode} {count : UInt16} {n : Nat} (hn : 0 < n)
    (hcount : count.toNat = n) :
    countClear clearCycles level fault count =
      if window clearCycles ≤ n then (.normal, .cleared fault)
      else (.clearing level fault count, .none) := by
  have hiff : clearCycles ≤ count ↔ window clearCycles ≤ n := by
    rw [UInt16.le_iff_toNat_le, hcount, window]
    omega
  unfold countClear
  simp only [hiff]

lemma window_lt (clearCycles : UInt16) : window clearCycles < 65536 := by
  have h := clearCycles.toNat_lt
  unfold window
  omega

/-- A fault opens an episode, changes the kind of one, or revives one that was clearing. -/
lemma step_some_cases (h : AfterHistory clearCycles cs l) (fault : FaultCode) :
    (¬ Holds (window clearCycles) cs ∧
        l.step (some fault) =
          ({ l with
              state := .faulted (nextLevel l.disableLevel) fault
              disableLevel := nextLevel l.disableLevel },
            .confirmed (nextLevel l.disableLevel) fault)) ∨
      ∃ old, newestFault cs = some old ∧ Holds (window clearCycles) cs ∧
        l.step (some fault) =
          ({ l with state := .faulted l.disableLevel fault },
            if 0 < clearStreak cs then .relapsed fault
            else if fault = old then .none else .reconfirmed fault) := by
  rcases phase_cases (window_pos clearCycles) cs with ⟨hh, hst⟩ | ⟨old, hf, hh, hphase⟩
  · have hl : l.state = .normal := h.state_eq.trans (hst _)
    exact Or.inl ⟨hh, by simp only [step, hl]⟩
  · refine Or.inr ⟨old, hf, hh, ?_⟩
    rcases hphase with ⟨hz, hst⟩ | ⟨hpos, -, hst⟩
    · have hl := h.state_eq.trans (hst _)
      rw [if_neg (by omega)]
      simp only [step, hl]
    · have hl := h.state_eq.trans (hst _)
      rw [if_pos hpos]
      simp only [step, hl]

/-- A condition without a fault lets an open latch be and brings a closed one nearer to opening. -/
lemma step_none_cases (h : AfterHistory clearCycles cs l) :
    (¬ Holds (window clearCycles) cs ∧ l.step none = (l, .none)) ∨
      ∃ old, newestFault cs = some old ∧ Holds (window clearCycles) cs ∧
        l.step none =
          if window clearCycles ≤ clearStreak cs + 1 then ({ l with state := .normal }, .cleared old)
          else
            ({ l with
                state := .clearing l.disableLevel old (UInt16.ofNat (clearStreak cs + 1)) },
              .none) := by
  have hw := window_lt clearCycles
  rcases phase_cases (window_pos clearCycles) cs with ⟨hh, hst⟩ | ⟨old, hf, hh, hphase⟩
  · have hl : l.state = .normal := h.state_eq.trans (hst _)
    exact Or.inl ⟨hh, by simp only [step, hl]⟩
  · refine Or.inr ⟨old, hf, hh, ?_⟩
    rcases hphase with ⟨hz, hst⟩ | ⟨-, hlt, hst⟩
    · have hl := h.state_eq.trans (hst _)
      have hcount : (1 : UInt16).toNat = clearStreak cs + 1 := by rw [hz]; rfl
      simp only [step, hl, h.clearCycles_eq]
      rw [countClear_eq (by omega) hcount, hz]
      split <;> rfl
    · have hl := h.state_eq.trans (hst _)
      have hcount : (countUp16 (UInt16.ofNat (clearStreak cs))).toNat = clearStreak cs + 1 := by
        rw [toNat_countUp16, UInt16.toNat_ofNat', Nat.mod_eq_of_lt (by omega)]
        omega
      have hnext : countUp16 (UInt16.ofNat (clearStreak cs)) = UInt16.ofNat (clearStreak cs + 1) := by
        rw [← UInt16.toNat_inj, hcount, UInt16.toNat_ofNat', Nat.mod_eq_of_lt (by omega)]
      simp only [step, hl, h.clearCycles_eq]
      rw [countClear_eq (by omega) hcount, hnext]
      split <;> rfl

/-- A step leaves the latch as the longer history has it. -/
theorem afterHistory_step (h : AfterHistory clearCycles cs l) (c : Option FaultCode) :
    AfterHistory clearCycles (cs ++ [c]) (l.step c).1 := by
  cases c with
  | some fault =>
    have hstate := fun level => (stateAfter_concat_some (window clearCycles) level cs fault).symm
    rcases step_some_cases h fault with ⟨hh, hstep⟩ | ⟨old, -, hh, hstep⟩
    · -- an open latch: the fault begins an episode and raises the level with it
      rw [hstep]
      refine ⟨h.clearCycles_eq, hstate _, ?_⟩
      rw [episodes_concat, if_pos ⟨rfl, hh⟩]
      exact toNat_nextLevel h.level_eq
    · rw [hstep]
      refine ⟨h.clearCycles_eq, hstate _, ?_⟩
      show l.disableLevel.toNat = _
      rw [episodes_concat, if_neg fun hb => hb.2 hh]
      exact h.level_eq
  | none =>
    have hlevel : l.disableLevel.toNat = min 3 (episodes (window clearCycles) (cs ++ [none])) := by
      rw [episodes_concat, if_neg fun hb => nomatch hb.1]
      exact h.level_eq
    have hstate := stateAfter_concat_none (window clearCycles) l.disableLevel cs
    rcases step_none_cases h with ⟨hh, hstep⟩ | ⟨old, hf, hh, hstep⟩
    · -- an open latch stays open: the window has no fault and gets none
      have hopen : stateAfter (window clearCycles) l.disableLevel cs = .normal := by
        rcases phase_cases (window_pos clearCycles) cs with ⟨-, hst⟩ | ⟨-, -, hin, -⟩
        · exact hst _
        · exact absurd hin hh
      rw [hstep]
      refine ⟨h.clearCycles_eq, ?_, hlevel⟩
      rw [h.state_eq, hopen, hstate]
      rcases not_holds_iff.mp hh with hf | hge
      · rw [hf]
      · split
        · rfl
        · rw [if_pos (by omega)]
    · rw [hf] at hstate
      dsimp only at hstate
      rw [hstep]
      split
      · next hge =>
        rw [if_pos hge] at hstate
        exact ⟨h.clearCycles_eq, hstate.symm, hlevel⟩
      · next hlt =>
        rw [if_neg hlt] at hstate
        exact ⟨h.clearCycles_eq, hstate.symm, hlevel⟩

theorem afterHistory_run (clearCycles : UInt16) (cs : List (Option FaultCode)) :
    AfterHistory clearCycles cs (run { clearCycles } cs) := by
  induction cs using List.reverseRecOn with
  | nil => exact ⟨rfl, rfl, rfl⟩
  | append_singleton cs c ih =>
    rw [run_concat]
    exact afterHistory_step ih c

/-! ## What can be seen -/

/-- What can be seen of a latch with a window of `w` conditions after the history `cs`. -/
structure StateLaw (w : Nat) (cs : List (Option FaultCode)) (l : Latch) : Prop where
  engaged_iff : l.isEngaged ↔ Holds w cs
  fault_eq : l.isEngaged → newestFault cs = some l.fault
  activeLevel_eq : l.isEngaged → l.activeLevel = l.disableLevel
  state_of_fault : ∀ fault, l.isEngaged → cs.getLast? = some (some fault) →
    l.state = .faulted l.disableLevel fault
  state_of_clear : l.isEngaged → cs.getLast? = some none →
    ∃ count, l.state = .clearing l.disableLevel l.fault count ∧ count.toNat = clearStreak cs
  disableLevel_eq : l.disableLevel.toNat = min 3 (episodes w cs)

/-- Whether `c` is a fault that comes back before the latch has opened. -/
def Relapses (w : Nat) (past : List (Option FaultCode)) (c : Option FaultCode) (fault : FaultCode) :
    Prop :=
  c = some fault ∧ past.getLast? = some none ∧ Holds w past

/-- Whether `c` is a fault of another kind than the one right before it. -/
def Changes (past : List (Option FaultCode)) (c : Option FaultCode) (fault : FaultCode) : Prop :=
  c = some fault ∧ ∃ old, past.getLast? = some (some old) ∧ old ≠ fault

/-- Whether `c` makes it exactly `w` conditions without a fault after the fault `fault`. -/
def Completes (w : Nat) (past : List (Option FaultCode)) (c : Option FaultCode)
    (fault : FaultCode) : Prop :=
  lastN (w + 1) (past ++ [c]) = some fault :: List.replicate w none

/-- The transition of a latch with a window of `w` conditions that is fed `c` after `past`. -/
structure TransitionLaw (w : Nat) (past : List (Option FaultCode)) (c : Option FaultCode)
    (t : LatchTransition) : Prop where
  confirmed_iff : ∀ level fault, t = .confirmed level fault ↔
    Begins w past c ∧ c = some fault ∧ level.toNat = min 3 (episodes w (past ++ [c]))
  relapsed_iff : ∀ fault, t = .relapsed fault ↔ Relapses w past c fault
  reconfirmed_iff : ∀ fault, t = .reconfirmed fault ↔ Changes past c fault
  cleared_iff : ∀ fault, t = .cleared fault ↔ Completes w past c fault

lemma AfterHistory.stateLaw (h : AfterHistory clearCycles cs l) :
    StateLaw (window clearCycles) cs l := by
  rcases phase_cases (window_pos clearCycles) cs with ⟨hh, hst⟩ | ⟨fault, hf, hh, hphase⟩
  · have hl : l.state = .normal := h.state_eq.trans (hst _)
    have hopen : ¬ l.isEngaged := by simp [isEngaged, hl]
    exact ⟨iff_of_false hopen hh, fun he => absurd he hopen, fun he => absurd he hopen,
      fun _ he => absurd he hopen, fun he => absurd he hopen, h.level_eq⟩
  · rcases hphase with ⟨hz, hst⟩ | ⟨hpos, hlt, hst⟩
    · have hl := h.state_eq.trans (hst _)
      have hfault : l.fault = fault := by simp only [Latch.fault, hl]
      refine ⟨iff_of_true (by simp [isEngaged, hl]) hh, fun _ => by rw [hf, hfault],
        fun _ => by simp only [activeLevel, hl], fun new _ hlast => ?_, fun _ hlast => ?_, h.level_eq⟩
      · obtain ⟨hnew, -⟩ := getLast?_eq_some_iff.mp hlast
        rw [hf] at hnew
        injection hnew with hnew
        rw [hl, hnew]
      · have hpos := getLast?_eq_none_iff.mp hlast
        omega
    · have hl := h.state_eq.trans (hst _)
      have hfault : l.fault = fault := by simp only [Latch.fault, hl]
      refine ⟨iff_of_true (by simp [isEngaged, hl]) hh, fun _ => by rw [hf, hfault],
        fun _ => by simp only [activeLevel, hl], fun new _ hlast => ?_, fun _ _ => ?_, h.level_eq⟩
      · obtain ⟨-, hz⟩ := getLast?_eq_some_iff.mp hlast
        omega
      · refine ⟨_, by rw [hl, hfault], ?_⟩
        have hw := window_lt clearCycles
        rw [UInt16.toNat_ofNat', Nat.mod_eq_of_lt (by omega)]

section Transitions
variable {w : Nat} {fault old : FaultCode}

/-- A fault completes no clear streak. -/
lemma not_completes_some {other : FaultCode} (hw : 0 < w) : ¬ Completes w cs (some fault) other := by
  intro heq
  obtain ⟨-, hz⟩ := lastN_eq_fault_cons_iff.mp heq
  rw [clearStreak_concat, if_neg (by simp)] at hz
  omega

/-- A fault that finds the window clear begins an episode. -/
lemma transitionLaw_confirmed {level : UInt8} (hw : 0 < w) (hh : ¬ Holds w cs)
    (hlevel : level.toNat = min 3 (episodes w (cs ++ [some fault]))) :
    TransitionLaw w cs (some fault) (.confirmed level fault) := by
  refine ⟨fun level' fault' => ⟨?_, ?_⟩, fun fault' => iff_of_false nofun fun hr => hh hr.2.2,
    fun fault' => iff_of_false nofun ?_, fun fault' => iff_of_false nofun (not_completes_some hw)⟩
  · intro heq
    cases heq
    exact ⟨⟨rfl, hh⟩, rfl, hlevel⟩
  · intro hbegins
    obtain ⟨-, hc, hlevel'⟩ := hbegins
    injection hc with hc
    rw [hc, UInt8.toNat_inj.mp (hlevel'.trans hlevel.symm)]
  · intro hchanges
    obtain ⟨-, old, hlast, -⟩ := hchanges
    exact hh (holds_of_getLast? hw hlast)

/-- A fault within the window but after a clear condition is a relapse. -/
lemma transitionLaw_relapsed (hw : 0 < w) (hh : Holds w cs) (hlast : cs.getLast? = some none) :
    TransitionLaw w cs (some fault) (.relapsed fault) := by
  refine ⟨fun level fault' => iff_of_false nofun fun hb => hb.1.2 hh, fun fault' => ⟨?_, ?_⟩,
    fun fault' => iff_of_false nofun ?_, fun fault' => iff_of_false nofun (not_completes_some hw)⟩
  · intro heq
    cases heq
    exact ⟨rfl, hlast, hh⟩
  · intro hrelapses
    obtain ⟨hc, -, -⟩ := hrelapses
    injection hc with hc
    rw [hc]
  · intro hchanges
    obtain ⟨-, old, hfault, -⟩ := hchanges
    rw [hlast] at hfault
    exact nomatch hfault

/-- A fault right after a fault is a change of kind or no transition at all. -/
lemma transitionLaw_faulted (hw : 0 < w) (hlast : cs.getLast? = some (some old)) :
    TransitionLaw w cs (some fault) (if fault = old then .none else .reconfirmed fault) := by
  have hh : Holds w cs := holds_of_getLast? hw hlast
  have hrelapses : ∀ fault', ¬ Relapses w cs (some fault) fault' := by
    intro fault' hr
    obtain ⟨-, hnone, -⟩ := hr
    rw [hlast] at hnone
    exact nomatch hnone
  have hchanges : ∀ fault', Changes cs (some fault) fault' ↔ fault = fault' ∧ fault ≠ old := by
    intro fault'
    constructor
    · intro hc
      obtain ⟨hfault, old', hlast', hne⟩ := hc
      rw [hlast] at hlast'
      injection hfault with hfault
      injection hlast' with hlast'
      injection hlast' with hlast'
      rw [hfault, hlast']
      exact ⟨rfl, Ne.symm hne⟩
    · intro hc
      obtain ⟨rfl, hne⟩ := hc
      exact ⟨rfl, old, hlast, Ne.symm hne⟩
  by_cases hsame : fault = old
  · rw [if_pos hsame]
    exact ⟨fun level fault' => iff_of_false nofun fun hb => hb.1.2 hh,
      fun fault' => iff_of_false nofun (hrelapses fault'),
      fun fault' => iff_of_false nofun fun hc => ((hchanges fault').mp hc).2 hsame,
      fun fault' => iff_of_false nofun (not_completes_some hw)⟩
  · rw [if_neg hsame]
    refine ⟨fun level fault' => iff_of_false nofun fun hb => hb.1.2 hh,
      fun fault' => iff_of_false nofun (hrelapses fault'), fun fault' => ?_,
      fun fault' => iff_of_false nofun (not_completes_some hw)⟩
    rw [hchanges]
    constructor
    · intro heq
      cases heq
      exact ⟨rfl, hsame⟩
    · intro hc
      rw [hc.1]

/-- Without a fault there is no transition but the opening of the latch. -/
lemma transitionLaw_clear {t : LatchTransition}
    (ht : ∀ fault, t = .cleared fault ↔ newestFault cs = some fault ∧ clearStreak cs + 1 = w)
    (hkind : t = .none ∨ ∃ fault, t = .cleared fault) : TransitionLaw w cs none t := by
  have hclear : ∀ fault, Completes w cs none fault ↔
      newestFault cs = some fault ∧ clearStreak cs + 1 = w := by
    intro fault
    rw [Completes, lastN_eq_fault_cons_iff, newestFault_concat, clearStreak_concat]
    rfl
  have hother : (∀ level fault, t ≠ .confirmed level fault) ∧ (∀ fault, t ≠ .relapsed fault) ∧
      ∀ fault, t ≠ .reconfirmed fault := by
    rcases hkind with rfl | ⟨fault, rfl⟩
    · exact ⟨nofun, nofun, nofun⟩
    · exact ⟨nofun, nofun, nofun⟩
  obtain ⟨hconfirmed, hrelapsed, hreconfirmed⟩ := hother
  refine ⟨fun level fault => iff_of_false (hconfirmed level fault) (nofun),
    fun fault => iff_of_false (hrelapsed fault) (nofun),
    fun fault => iff_of_false (hreconfirmed fault) (nofun), fun fault => ?_⟩
  rw [hclear, ht]

end Transitions

/-- Every transition of a latch is the one its history calls for. -/
lemma AfterHistory.transitionLaw (h : AfterHistory clearCycles cs l) (c : Option FaultCode) :
    TransitionLaw (window clearCycles) cs c (l.step c).2 := by
  have hw := window_pos clearCycles
  cases c with
  | some new =>
    have hlevel := (afterHistory_step h (some new)).level_eq
    rcases step_some_cases h new with ⟨hh, hstep⟩ | ⟨old, hf, hh, hstep⟩
    · rw [hstep] at hlevel ⊢
      exact transitionLaw_confirmed hw hh hlevel
    · rw [hstep]
      by_cases hpos : 0 < clearStreak cs
      · rw [if_pos hpos]
        exact transitionLaw_relapsed hw hh (getLast?_eq_none_iff.mpr hpos)
      · rw [if_neg hpos]
        exact transitionLaw_faulted hw (getLast?_eq_some_iff.mpr ⟨hf, by omega⟩)
  | none =>
    rcases step_none_cases h with ⟨hh, hstep⟩ | ⟨old, hf, hh, hstep⟩
    · -- an open latch has no fault to clear
      rw [hstep]
      refine transitionLaw_clear (fun fault => iff_of_false nofun fun hc => ?_) (Or.inl rfl)
      rcases not_holds_iff.mp hh with hnone | hge
      · rw [hnone] at hc
        exact nomatch hc.1
      · omega
    · have hlt := clearStreak_lt_of_holds hh
      rw [hstep]
      by_cases hfull : window clearCycles ≤ clearStreak cs + 1
      · rw [if_pos hfull]
        refine transitionLaw_clear (fun fault => ⟨fun heq => ?_, fun hc => ?_⟩) (Or.inr ⟨old, rfl⟩)
        · cases heq
          exact ⟨hf, by omega⟩
        · rw [hf] at hc
          injection hc.1 with hold
          rw [hold]
      · rw [if_neg hfull]
        exact transitionLaw_clear (fun fault => iff_of_false nofun fun hc => by omega) (Or.inl rfl)

/-- A latch makes no transition exactly if none of the four conditions applies. -/
lemma TransitionLaw.none_iff {w : Nat} {past : List (Option FaultCode)} {t : LatchTransition}
    (h : TransitionLaw w past c t) :
    t = .none ↔ ¬ Begins w past c ∧ ∀ fault,
      ¬ Relapses w past c fault ∧ ¬ Changes past c fault ∧ ¬ Completes w past c fault := by
  constructor
  · intro h'
    subst h'
    refine ⟨fun hb => ?_, fun fault => ⟨fun hr => ?_, fun hr => ?_, fun hr => ?_⟩⟩
    · obtain ⟨fault, hc⟩ := Option.isSome_iff_exists.mp hb.1
      have hlevel : (UInt8.ofNat (min 3 (episodes w (past ++ [c])))).toNat =
          min 3 (episodes w (past ++ [c])) := by
        rw [UInt8.toNat_ofNat', Nat.mod_eq_of_lt (by omega)]
      exact nomatch (h.confirmed_iff _ fault).mpr ⟨hb, hc, hlevel⟩
    · exact nomatch (h.relapsed_iff fault).mpr hr
    · exact nomatch (h.reconfirmed_iff fault).mpr hr
    · exact nomatch (h.cleared_iff fault).mpr hr
  · intro h'
    obtain ⟨hb, hnot⟩ := h'
    cases t with
    | none => rfl
    | confirmed level fault => exact absurd ((h.confirmed_iff level fault).mp rfl).1 hb
    | reconfirmed fault => exact absurd ((h.reconfirmed_iff fault).mp rfl) (hnot fault).2.1
    | relapsed fault => exact absurd ((h.relapsed_iff fault).mp rfl) (hnot fault).1
    | cleared fault => exact absurd ((h.cleared_iff fault).mp rfl) (hnot fault).2.2

/-- **Closed form.** What a fresh latch shows after any history of conditions, and the transition it
makes on any next one, are functions of the history alone. -/
theorem latch_closed_form (clearCycles : UInt16) (cs : List (Option FaultCode)) :
    let w := window clearCycles
    let l := run { clearCycles } cs
    StateLaw w cs l ∧ ∀ c, TransitionLaw w cs c (l.step c).2 ∧
      ((l.step c).2 = .none ↔ ¬ Begins w cs c ∧ ∀ fault,
        ¬ Relapses w cs c fault ∧ ¬ Changes cs c fault ∧ ¬ Completes w cs c fault) := by
  intro w l
  have h : AfterHistory clearCycles cs l := afterHistory_run clearCycles cs
  exact ⟨h.stateLaw, fun c => ⟨h.transitionLaw c, (h.transitionLaw c).none_iff⟩⟩

end Latch
end FrontZone
