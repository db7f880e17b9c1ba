import FrontZone.Proofs.Diagnostics
import FrontZone.Proofs.Governor.SafeOutput
import FrontZone.Proofs.Latch
import Mathlib.Data.List.Pairwise
import Mathlib.Data.List.ReduceOption
/-!
# What a cycle reports of a trouble code

A trouble code stands for a kind of fault or for the actuator as a whole. Its verdict can be read
off the state: `State.fails` says whether the fault is being held, the episode of the latch being
what it has met since it closed. A cycle reports of the code what has become of the verdict, and
mostly nothing; `announces_outcome`, the main statement, holds every cycle to
`EventStore.Announces`.
-/

namespace FrontZone

/-- The codes that are configured, in a fixed order. -/
def DtcMap.codes (m : DtcMap) : List Dtc :=
  [m.outOfRange, m.plausibility, m.cmdTimeout, m.sensorFail, m.summary].reduceOption

lemma DtcMap.length_codes_le (m : DtcMap) : m.codes.length ≤ 5 :=
  List.reduceOption_length_le _

namespace Governor

variable {c : Calibration} {s : State} {k : Call}

/-! ## Topics -/

/-- What a trouble code stands for. -/
inductive Topic where
  | kind (fault : FaultCode)
  /-- That anything at all is wrong with the actuator. -/
  | summary
  deriving DecidableEq

namespace Topic

/-- The code of a topic, if it is configured. -/
def code (c : Calibration) : Topic → Option Dtc
  | kind fault => dtcFor c fault
  | summary => c.dtc.summary

/-- The topics that can have a code. -/
def all : List Topic :=
  [kind .outOfRange, kind .plausibility, kind .cmdTimeout, kind .sensorFail, summary]

variable {t t' : Topic} {code : Dtc}

lemma filterMap_all (c : Calibration) : all.filterMap (·.code c) = c.dtc.codes := rfl

lemma mem_all (h : t.code c = some code) : t ∈ all := by
  cases t with
  | summary => decide
  | kind fault =>
    cases fault with
    | noFault => exact nomatch h
    | rateExceeded => exact nomatch h
    | outOfRange => decide
    | plausibility => decide
    | cmdTimeout => decide
    | sensorFail => decide

lemma mem_codes_iff : code ∈ c.dtc.codes ↔ ∃ t : Topic, t.code c = some code := by
  rw [← filterMap_all, List.mem_filterMap]
  exact ⟨fun ⟨t, _, ht⟩ => ⟨t, ht⟩, fun ⟨t, ht⟩ => ⟨t, mem_all ht, ht⟩⟩

/-- Where the codes are pairwise distinct, a code stands for one topic. -/
lemma code_injective (hcodes : c.dtc.codes.Nodup) (h : t.code c = some code)
    (h' : t'.code c = some code) : t = t' := by
  rw [← filterMap_all, List.Nodup, List.pairwise_filterMap] at hcodes
  by_contra hne
  have hsymm : Std.Symm fun t t' : Topic =>
      ∀ code, t.code c = some code → ∀ code', t'.code c = some code' → code ≠ code' :=
    ⟨fun _ _ h code' h' code hc => (h code hc code' h').symm⟩
  exact hcodes.forall (mem_all h) (mem_all h') hne code h code h' rfl

end Topic

/-! ## Episodes -/

/-- The kinds of fault that the latch of a calibration can hold. -/
def latchedKinds (c : Calibration) : List FaultCode :=
  FaultCode.latchable.filter fun fault => fault ≠ .cmdTimeout || c.failSafe.latchesTimeout

lemma mem_latchable {fault : FaultCode} (h : fault ∈ latchedKinds c) : fault ∈ FaultCode.latchable :=
  List.mem_of_mem_filter h

/-- Down a ramp a stale command is not latched. -/
lemma cmdTimeout_not_mem {rate : Int32} (hc : c.failSafe = .ramp rate) :
    .cmdTimeout ∉ latchedKinds c := by
  simp [latchedKinds, hc, FailSafe.latchesTimeout]

/-- Every condition is of a kind that latches. -/
lemma condition_mem_latchedKinds {f : Findings} {fault : FaultCode} (h : f.condition c = some fault) :
    fault ∈ latchedKinds c := by
  unfold Findings.condition at h
  unfold latchedKinds
  split at h
  · cases h
    simp [FaultCode.latchable]
  split at h
  · cases h
    simp [FaultCode.latchable]
  split at h
  · cases h
    simp [FaultCode.latchable]
  split at h
  · next hstale =>
    cases h
    rw [Bool.and_eq_true] at hstale
    simp [FaultCode.latchable, hstale.2]
  · exact nomatch h

/-- An episode that accounts for what the latch holds. -/
structure Accounts (c : Calibration) (l : Latch) (episode : List FaultCode) : Prop where
  nil_of_open : ¬ l.isEngaged → episode = []
  fault_mem : l.isEngaged → l.fault ∈ episode
  latched : ∀ fault ∈ episode, fault ∈ latchedKinds c

lemma accounts_initial (c : Calibration) :
    Accounts c (State.initial c).latch (State.initial c).episode :=
  ⟨fun _ => rfl, fun h => absurd h Bool.false_ne_true, fun _ h => nomatch h⟩

variable {l l' : Latch} {episode : List FaultCode} {condition : Option FaultCode}
  {transition : LatchTransition}

/-- A kind has been met after a step if it was met before or is met now, as long as the latch holds.
-/
lemma mem_nextEpisode (ha : Accounts c l episode) (hmove : l.Move condition l' transition)
    (hafter : l'.isEngaged) (fault : FaultCode) :
    fault ∈ nextEpisode episode transition ↔ condition = some fault ∨ fault ∈ episode := by
  cases hmove with
  | idle hopen => exact absurd hafter hopen
  | confirm hopen _ _ => simp [nextEpisode, eq_comm]
  | stay hbefore hsame _ _ =>
    -- a fault that goes on has been met already
    have hmet := ha.fault_mem hbefore
    rw [hsame] at hmet
    constructor
    · exact Or.inr
    · rintro (h | h)
      · cases h
        exact hmet
      · exact h
  | reconfirm _ _ _ => simp [nextEpisode, eq_comm]
  | relapse _ _ _ => simp [nextEpisode, eq_comm]
  | wait _ _ _ => simp [nextEpisode]
  | clear _ hopen => exact absurd hafter hopen

/-- Once the latch is open the episode is over. -/
lemma nextEpisode_of_open (ha : Accounts c l episode) (hmove : l.Move condition l' transition)
    (hafter : ¬ l'.isEngaged) : nextEpisode episode transition = [] := by
  cases hmove with
  | idle hopen => exact ha.nil_of_open hopen
  | confirm _ h _ => exact absurd h hafter
  | stay _ _ h _ => exact absurd h hafter
  | reconfirm _ h _ => exact absurd h hafter
  | relapse _ h _ => exact absurd h hafter
  | wait _ h _ => exact absurd h hafter
  | clear _ _ => rfl

lemma accounts_step (ha : Accounts c l episode) (hmove : l.Move condition l' transition)
    (hcondition : ∀ fault, condition = some fault → fault ∈ latchedKinds c) :
    Accounts c l' (nextEpisode episode transition) := by
  refine ⟨nextEpisode_of_open ha hmove, fun hafter => ?_, fun fault h => ?_⟩
  · rw [mem_nextEpisode ha hmove hafter]
    cases hmove with
    | idle hopen => exact absurd hafter hopen
    | confirm _ _ hfault => exact Or.inl (congrArg some hfault.symm)
    | stay _ _ _ hfault => exact Or.inl (congrArg some hfault.symm)
    | reconfirm _ _ hfault => exact Or.inl (congrArg some hfault.symm)
    | relapse _ _ hfault => exact Or.inl (congrArg some hfault.symm)
    | wait hbefore _ hfault => exact Or.inr (hfault ▸ ha.fault_mem hbefore)
    | clear _ hopen => exact absurd hafter hopen
  · by_cases hafter : l'.isEngaged
    · rcases (mem_nextEpisode ha hmove hafter fault).mp h with hnow | hbefore
      · exact hcondition fault hnow
      · exact ha.latched fault hbefore
    · rw [nextEpisode_of_open ha hmove hafter] at h
      exact nomatch h

/-- The latch moves on in every governed cycle. -/
lemma move_of_governed (h : ¬ k.inputs.isOverride) :
    s.latch.Move ((k.findings c s).condition c) (k.outcome c s).state.latch
      (k.outcome c s).report.transition := by
  rw [transition_of_governed h, state_of_governed h, governedState_eq]
  exact Latch.move_step ..

lemma episode_of_governed (h : ¬ k.inputs.isOverride) :
    (k.outcome c s).state.episode = nextEpisode s.episode (k.outcome c s).report.transition := by
  rw [transition_of_governed h, state_of_governed h, governedState_eq]

/-- Whatever the cycle, the episode goes on accounting for the latch. -/
theorem accounts_outcome (ha : Accounts c s.latch s.episode) (k : Call) :
    Accounts c (k.outcome c s).state.latch (k.outcome c s).state.episode := by
  by_cases h : k.inputs.isOverride
  · rw [state_of_override h]
    exact ha
  · rw [episode_of_governed h]
    exact accounts_step ha (move_of_governed h) fun _ => condition_mem_latchedKinds

/-! ## Verdicts -/

/-- Whether a latch with the faults met in its episode holds what a topic is about. -/
def holds (l : Latch) (episode : List FaultCode) : Topic → Bool
  | .kind fault => decide (fault ∈ episode)
  | .summary => l.isEngaged

/-- Whether the test behind a topic is failed: its fault is latched, or it is a stale command that
is reported without a latch. -/
def State.fails (s : State) (t : Topic) : Bool :=
  holds s.latch s.episode t || (t = .kind .cmdTimeout && s.timeoutActive)

lemma not_fails_initial (c : Calibration) (t : Topic) : (State.initial c).fails t = false := by
  cases t <;> simp [State.fails, holds, State.initial, Latch.isEngaged]

/-- A state that reports no fault fails no test. -/
lemma not_fails_of_noFault (ha : Accounts c s.latch s.episode) (h : s.fault = .noFault) (t : Topic) :
    s.fails t = false := by
  unfold State.fault at h
  by_cases hengaged : s.latch.isEngaged
  · -- what the latch holds is a fault
    rw [if_pos hengaged] at h
    have hmem := mem_latchable (ha.latched _ (ha.fault_mem hengaged))
    rw [h] at hmem
    exact absurd hmem (by decide)
  · rw [if_neg hengaged] at h
    have htimeout : s.timeoutActive = false := by
      by_contra htrue
      rw [Bool.not_eq_false] at htrue
      rw [if_pos htrue] at h
      exact nomatch h
    have hholds : holds s.latch s.episode t = false := by
      rw [ha.nil_of_open hengaged]
      cases t with
      | kind fault => rfl
      | summary => exact eq_false_of_ne_true hengaged
    rw [State.fails, hholds, htimeout, Bool.and_false, Bool.or_false]

/-! ## Reports -/

open EventStore (Announces outcomesOf outcomesOf_append)

variable {t : Topic} {code : Dtc}

/-- What is reported of topics, as reports of their codes. -/
def reportsOf (c : Calibration) (notices : List (Topic × EventStatus)) : List (Dtc × EventStatus) :=
  notices.flatMap fun n => reportOf (n.1.code c) n.2

/-- What is reported of one topic. -/
def onTopic (t : Topic) (notices : List (Topic × EventStatus)) : List EventStatus :=
  (notices.filter (·.1 = t)).map (·.2)

lemma onTopic_append (t : Topic) (notices later : List (Topic × EventStatus)) :
    onTopic t (notices ++ later) = onTopic t notices ++ onTopic t later := by
  rw [onTopic, List.filter_append, List.map_append]
  rfl

lemma mem_codes_of_mem_reportsOf {notices : List (Topic × EventStatus)} {e : Dtc × EventStatus}
    (h : e ∈ reportsOf c notices) : e.1 ∈ c.dtc.codes := by
  obtain ⟨n, -, he⟩ := List.mem_flatMap.mp h
  obtain ⟨code, hcode, rfl⟩ := List.mem_map.mp he
  exact Topic.mem_codes_iff.mpr ⟨n.1, Option.mem_toList.mp hcode⟩

/-- Of a code is reported what is reported of its topic. -/
lemma outcomesOf_reportsOf (hcodes : c.dtc.codes.Nodup) (ht : t.code c = some code)
    (notices : List (Topic × EventStatus)) :
    outcomesOf code (reportsOf c notices) = onTopic t notices := by
  induction notices with
  | nil => rfl
  | cons n notices ih =>
    have hone : outcomesOf code (reportOf (n.1.code c) n.2) = onTopic t [n] := by
      unfold onTopic
      rw [List.filter_singleton]
      by_cases hsame : n.1 = t
      · rw [hsame, ht, decide_eq_true rfl, cond_true]
        exact (EventStore.outcomesOf_cons code (code, n.2) []).trans (if_pos rfl)
      · rw [decide_eq_false hsame, cond_false]
        cases hother : n.1.code c with
        | none => rfl
        | some other =>
          have hne : other ≠ code := fun heq => hsame (Topic.code_injective hcodes hother (heq ▸ ht))
          exact (EventStore.outcomesOf_cons code (other, n.2) []).trans (if_neg hne)
    show outcomesOf code (reportOf (n.1.code c) n.2 ++ reportsOf c notices) =
      onTopic t ([n] ++ notices)
    rw [outcomesOf_append, ih, hone, onTopic_append]

/-! ## What the latch reports -/

/-- The notices of a latch transition. -/
def transitionNotices (episode : List FaultCode) : LatchTransition → List (Topic × EventStatus)
  | .none => []
  | .confirmed _ fault => [(.kind fault, .failed), (.summary, .failed)]
  | .reconfirmed fault => [(.kind fault, .failed)]
  | .relapsed fault => [(.kind fault, .failed), (.summary, .failed)]
  | .cleared _ =>
    (FaultCode.latchable.filter (· ∈ episode)).map (fun fault => (.kind fault, .passed)) ++
      [(.summary, .passed)]

lemma transitionEvents_eq (c : Calibration) (episode : List FaultCode)
    (transition : LatchTransition) :
    transitionEvents c episode transition = reportsOf c (transitionNotices episode transition) := by
  cases transition with
  | none => rfl
  | confirmed level fault => simp [transitionEvents, transitionNotices, reportsOf, Topic.code]
  | reconfirmed fault => simp [transitionEvents, transitionNotices, reportsOf, Topic.code]
  | relapsed fault => simp [transitionEvents, transitionNotices, reportsOf, Topic.code]
  | cleared fault =>
    simp [transitionEvents, transitionNotices, reportsOf, List.flatMap_map, Topic.code]

/-- When the latch opens, every kind met is reported as passed, and that once. -/
lemma onTopic_cleared (ha : Accounts c l episode) (fault held : FaultCode) :
    onTopic (.kind fault) (transitionNotices episode (.cleared held)) =
      if fault ∈ episode then [.passed] else [] := by
  have hkinds : onTopic (.kind fault) (transitionNotices episode (.cleared held)) =
      ((FaultCode.latchable.filter (· = fault)).filter (· ∈ episode)).map fun _ => .passed := by
    unfold transitionNotices
    rw [onTopic_append, List.filter_comm]
    simp [onTopic, List.filter_map, Function.comp_def]
  have hone : FaultCode.latchable.filter (· = fault) =
      if fault ∈ FaultCode.latchable then [fault] else [] := by
    cases fault <;> rfl
  rw [hkinds, hone]
  by_cases hmem : fault ∈ episode
  · rw [if_pos (mem_latchable (ha.latched fault hmem)), List.filter_singleton, decide_eq_true hmem,
      if_pos hmem]
    rfl
  · rw [if_neg hmem]
    split
    · rw [List.filter_singleton, decide_eq_false hmem]
      rfl
    · rfl

/-- A kind that is met in a step has failed, now at the latest. -/
lemma announces_met (episode : List FaultCode) (met fault : FaultCode)
    {rest : List (Topic × EventStatus)} (hrest : onTopic (.kind fault) rest = []) :
    Announces (decide (fault ∈ episode)) (decide (fault ∈ episode.insert met))
      (onTopic (.kind fault) ((.kind met, .failed) :: rest)) := by
  have hfirst : onTopic (.kind fault) ((.kind met, .failed) :: rest) =
      if met = fault then [.failed] else [] := by
    rw [← List.singleton_append, onTopic_append, hrest]
    by_cases hsame : met = fault <;> simp [onTopic, hsame]
  rw [hfirst]
  by_cases hsame : met = fault
  · have hafter : fault ∈ episode.insert met := hsame ▸ List.mem_insert_self
    rw [if_pos hsame, decide_eq_true hafter]
    cases decide (fault ∈ episode) with
    | false => rfl
    | true => exact Or.inr rfl
  · have hkeep : fault ∈ episode.insert met ↔ fault ∈ episode := by
      rw [List.mem_insert_iff]
      exact or_iff_right (Ne.symm hsame)
    rw [if_neg hsame, decide_eq_decide.mpr hkeep]
    exact Announces.refl _

lemma announces_kind (ha : Accounts c l episode) (hmove : l.Move condition l' transition)
    (fault : FaultCode) :
    Announces (decide (fault ∈ episode)) (decide (fault ∈ nextEpisode episode transition))
      (onTopic (.kind fault) (transitionNotices episode transition)) := by
  cases hmove with
  | idle _ => exact Announces.refl _
  | confirm _ _ _ => exact announces_met episode _ fault rfl
  | stay _ _ _ _ => exact Announces.refl _
  | reconfirm _ _ _ => exact announces_met episode _ fault rfl
  | relapse _ _ _ => exact announces_met episode _ fault rfl
  | wait _ _ _ => exact Announces.refl _
  | clear _ _ =>
    rw [onTopic_cleared ha]
    by_cases hmem : fault ∈ episode
    · rw [if_pos hmem, decide_eq_true hmem]
      rfl
    · rw [if_neg hmem, decide_eq_false hmem]
      rfl

lemma announces_summary (hmove : l.Move condition l' transition) (episode : List FaultCode) :
    Announces l.isEngaged l'.isEngaged (onTopic .summary (transitionNotices episode transition)) := by
  cases hmove with
  | idle _ => exact Announces.refl _
  | confirm hopen hafter _ =>
    rw [eq_false_of_ne_true hopen, hafter]
    rfl
  | stay hbefore _ hafter _ =>
    rw [hbefore, hafter]
    exact Or.inl rfl
  | reconfirm hbefore hafter _ =>
    rw [hbefore, hafter]
    exact Or.inl rfl
  | relapse hbefore hafter _ =>
    rw [hbefore, hafter]
    exact Or.inr rfl
  | wait hbefore hafter _ =>
    rw [hbefore, hafter]
    exact Or.inl rfl
  | clear hbefore hopen =>
    rw [hbefore, eq_false_of_ne_true hopen]
    show onTopic .summary (_ ++ [(Topic.summary, EventStatus.passed)]) = [.passed]
    rw [onTopic_append]
    simp [onTopic, List.filter_map, Function.comp_def]

/-- What the latch has to say of a topic announces what has become of its verdict. -/
lemma announces_move (ha : Accounts c l episode) (hmove : l.Move condition l' transition)
    (t : Topic) :
    Announces (holds l episode t) (holds l' (nextEpisode episode transition) t)
      (onTopic t (transitionNotices episode transition)) := by
  cases t with
  | kind fault => exact announces_kind ha hmove fault
  | summary => exact announces_summary hmove episode

/-! ## What the timeout reports -/

/-- The notices of a stale command that does not latch. -/
def timeoutNotices (was now : Bool) : List (Topic × EventStatus) :=
  if now = was then [] else [(.kind .cmdTimeout, if now then .failed else .passed)]

lemma timeoutEvents_eq (c : Calibration) (was now : Bool) :
    timeoutEvents c was now = reportsOf c (timeoutNotices was now) := by
  unfold timeoutEvents timeoutNotices
  split
  · rfl
  · exact (List.append_nil _).symm

lemma announces_timeout (was now : Bool) :
    Announces was now (onTopic (.kind .cmdTimeout) (timeoutNotices was now)) := by
  unfold timeoutNotices
  by_cases hsame : now = was
  · rw [if_pos hsame, hsame]
    exact Announces.refl _
  · rw [if_neg hsame]
    cases was with
    | false =>
      rw [eq_true_of_ne_false hsame]
      rfl
    | true =>
      rw [eq_false_of_ne_true hsame]
      rfl

/-- The timeout has nothing to say of any other topic. -/
lemma onTopic_timeout (ht : t ≠ .kind .cmdTimeout) (was now : Bool) :
    onTopic t (timeoutNotices was now) = [] := by
  unfold timeoutNotices
  split
  · rfl
  · rw [onTopic, List.filter_singleton, decide_eq_false (Ne.symm ht)]
    rfl

/-! ## What a cycle reports -/

/-- What a governed cycle has to say. -/
def Call.notices (k : Call) (c : Calibration) (s : State) : List (Topic × EventStatus) :=
  timeoutNotices s.timeoutActive (k.outcome c s).state.timeoutActive ++
    transitionNotices s.episode (k.outcome c s).report.transition

lemma events_of_override (h : k.inputs.isOverride) : (k.outcome c s).events = [] := by
  rw [Call.outcome_of_override h]
  rfl

lemma events_of_governed (h : ¬ k.inputs.isOverride) :
    (k.outcome c s).events = reportsOf c (k.notices c s) := by
  unfold Call.notices reportsOf
  rw [Call.outcome_of_governed h, List.flatMap_append]
  show timeoutEvents .. ++ transitionEvents .. = _
  rw [timeoutEvents_eq, transitionEvents_eq]
  rfl

/-- Every cycle reports codes that are configured. -/
lemma mem_codes_of_mem_events {e : Dtc × EventStatus} (he : e ∈ (k.outcome c s).events) :
    e.1 ∈ c.dtc.codes := by
  by_cases h : k.inputs.isOverride
  · rw [events_of_override h] at he
    exact nomatch he
  · rw [events_of_governed h] at he
    exact mem_codes_of_mem_reportsOf he

/-- What a governed cycle has to say of a topic announces what has become of its verdict. -/
lemma announces_governed (hs : s.Consistent c) (ha : Accounts c s.latch s.episode)
    (h : ¬ k.inputs.isOverride) (t : Topic) :
    Announces (s.fails t) ((k.outcome c s).state.fails t) (onTopic t (k.notices c s)) := by
  have hlatch : Announces (holds s.latch s.episode t)
      (holds (k.outcome c s).state.latch (k.outcome c s).state.episode t)
      (onTopic t (transitionNotices s.episode (k.outcome c s).report.transition)) := by
    rw [episode_of_governed h]
    exact announces_move ha (move_of_governed h) t
  have htimeout : (k.outcome c s).state.timeoutActive =
      if c.failSafe.latchesTimeout then s.timeoutActive else (k.findings c s).isStale c := by
    rw [state_of_governed h, governedState_eq]
  unfold Call.notices State.fails
  rw [onTopic_append]
  by_cases ht : t = .kind .cmdTimeout
  · cases hf : c.failSafe with
    | snap =>
      have hoff : s.timeoutActive = false := by
        by_contra hon
        obtain ⟨rate, hramp⟩ := hs.ramps_of_timeout (Bool.not_eq_false _ ▸ hon)
        exact nomatch hf.symm.trans hramp
      have hoff' : (k.outcome c s).state.timeoutActive = false := by
        rw [htimeout, hf]
        exact hoff
      rw [hoff, hoff', Bool.and_false, Bool.or_false, Bool.or_false]
      exact hlatch
    | ramp rate =>
      -- the latch never meets a stale command, so only the timeout has something to say
      have hholds : ∀ {l : Latch} {episode : List FaultCode}, Accounts c l episode →
          holds l episode t = false := by
        intro l episode hacc
        rw [ht]
        exact decide_eq_false fun hmem => cmdTimeout_not_mem hf (hacc.latched _ hmem)
      rw [hholds ha, hholds (accounts_outcome ha k)] at hlatch ⊢
      rw [show onTopic t (transitionNotices s.episode _) = [] from hlatch, List.append_nil,
        decide_eq_true ht, ht]
      exact announces_timeout ..
  · -- the timeout is of no concern to any other topic
    rw [onTopic_timeout ht, decide_eq_false ht, Bool.false_and, Bool.false_and, Bool.or_false,
      Bool.or_false, List.nil_append]
    exact hlatch

/-- Whatever the cycle, what it reports of a code announces what has become of its verdict. -/
theorem announces_outcome (hs : s.Consistent c) (ha : Accounts c s.latch s.episode)
    (hcodes : c.dtc.codes.Nodup) (ht : t.code c = some code) (k : Call) :
    Announces (s.fails t) ((k.outcome c s).state.fails t)
      (outcomesOf code (k.outcome c s).events) := by
  by_cases h : k.inputs.isOverride
  · rw [events_of_override h, state_of_override h]
    exact Announces.refl _
  · rw [events_of_governed h, outcomesOf_reportsOf hcodes ht]
    exact announces_governed hs ha h t

end Governor
end FrontZone
