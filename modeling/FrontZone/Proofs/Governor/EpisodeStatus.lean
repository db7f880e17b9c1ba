import FrontZone.Proofs.Governor.TroubleCodes
import FrontZone.Proofs.History
import Mathlib.Data.List.ModifyLast
/-!
# Trouble codes over the episodes of a latch

The event store is told of edges, so what it holds of a code depends on all that was ever reported.
Over the history of governed cycles it is simpler: a run falls into episodes, each from one
confirmed fault to the next, and a code is failed exactly while the latch holds and the newest
episode has met its kind. `Ledger` is the link between store, state and history, kept by every
cycle; the main statement spells out what the store then shows of every code.
-/

namespace FrontZone

/-- Whether a transition opens an episode. -/
def LatchTransition.opens : LatchTransition → Bool
  | confirmed .. => true
  | _ => false

namespace Latch

variable {l l' : Latch} {condition : Option FaultCode} {transition : LatchTransition}

/-- An episode opens where the latch gets engaged. -/
lemma Move.opens_iff (hmove : l.Move condition l' transition) :
    transition.opens ↔ l'.isEngaged ∧ ¬ l.isEngaged := by
  cases hmove <;> simp_all [LatchTransition.opens]

/-- A latch is open only after a step without a fault. -/
lemma Move.condition_eq_none (hmove : l.Move condition l' transition) (hafter : ¬ l'.isEngaged) :
    condition = none := by
  cases hmove with
  | idle _ => rfl
  | confirm _ h _ => exact absurd h hafter
  | stay _ _ h _ => exact absurd h hafter
  | reconfirm _ h _ => exact absurd h hafter
  | relapse _ h _ => exact absurd h hafter
  | wait _ _ _ => rfl
  | clear _ _ => rfl

end Latch

namespace Governor

variable {c : Calibration} {s : State} {g : Governor} {k : Call}

/-! ## Episodes of a run -/

/-- What a governed cycle fed to the latch, and what the latch did. -/
structure Turn where
  condition : Option FaultCode
  transition : LatchTransition
  deriving DecidableEq

/-- The turn of a governed cycle. -/
def Call.turn (k : Call) (c : Calibration) (s : State) : Turn :=
  ⟨(k.findings c s).condition c, (k.outcome c s).report.transition⟩

/-- The turns that a run of updates takes from the start, one for each governed cycle. -/
def turns (c : Calibration) (ks : List Call) : List Turn :=
  (withPast ks).filterMap fun p =>
    if p.2.inputs.isOverride then none else some (p.2.turn c ((State.initial c).run c p.1))

lemma turns_concat (c : Calibration) (ks : List Call) (k : Call) :
    turns c (ks ++ [k]) =
      if k.inputs.isOverride then turns c ks
      else turns c ks ++ [k.turn c ((State.initial c).run c ks)] := by
  rw [turns, filterMap_withPast_concat]
  split
  · exact List.append_nil _
  · rfl

/-- A turn begins an episode or goes on with the newest. -/
def joinEpisode (es : List (List Turn)) (t : Turn) : List (List Turn) :=
  if t.transition.opens then es ++ [[t]] else es.modifyLast (· ++ [t])

/-- The episodes of a history, oldest first: each goes from one confirmed fault to the next. -/
def episodes (ts : List Turn) : List (List Turn) :=
  ts.foldl joinEpisode []

lemma episodes_concat (ts : List Turn) (t : Turn) :
    episodes (ts ++ [t]) = joinEpisode (episodes ts) t :=
  List.foldl_concat ..

/-- Whether a kind of fault was the condition in some cycle of an episode. -/
def meets (kind : FaultCode) (episode : List Turn) : Bool :=
  episode.any (·.condition = some kind)

lemma meets_concat (kind : FaultCode) (episode : List Turn) (t : Turn) :
    meets kind (episode ++ [t]) = (meets kind episode || t.condition = some kind) := by
  simp [meets]

/-- In how many episodes a topic failed: those that met its kind, or all of them. -/
def failures (ts : List Turn) : Topic → Nat
  | .kind kind => (episodes ts).countP (meets kind)
  | .summary => ts.countP (·.transition.opens)

/-! ## The newest episode and the latch -/

section Steps

variable {ts : List Turn} {l l' : Latch} {episode : List FaultCode} {condition : Option FaultCode}
  {transition : LatchTransition}

/-- While the latch holds, its episode is the newest of the history. -/
def Recalls (ts : List Turn) (l : Latch) (episode : List FaultCode) : Prop :=
  l.isEngaged → ∃ past newest, episodes ts = past ++ [newest] ∧
    ∀ kind, kind ∈ episode ↔ meets kind newest

/-- A turn that keeps the latch engaged goes on with the newest episode. -/
lemma Recalls.goes_on (hr : Recalls ts l episode) (hmove : l.Move condition l' transition)
    (hafter : l'.isEngaged) (hopens : ¬ transition.opens) :
    ∃ past newest, episodes ts = past ++ [newest] ∧
      (∀ kind, kind ∈ episode ↔ meets kind newest) ∧
      episodes (ts ++ [⟨condition, transition⟩]) =
        past ++ [newest ++ [⟨condition, transition⟩]] := by
  have hbefore : l.isEngaged := by
    by_contra hopen
    exact hopens (hmove.opens_iff.mpr ⟨hafter, hopen⟩)
  obtain ⟨past, newest, hsplit, hmet⟩ := hr hbefore
  refine ⟨past, newest, hsplit, hmet, ?_⟩
  rw [episodes_concat, joinEpisode, if_neg hopens, hsplit, List.modifyLast_concat]

lemma recalls_step (ha : Accounts c l episode) (hr : Recalls ts l episode)
    (hmove : l.Move condition l' transition) :
    Recalls (ts ++ [⟨condition, transition⟩]) l' (nextEpisode episode transition) := by
  intro hafter
  have hmem := mem_nextEpisode ha hmove hafter
  by_cases hopens : transition.opens
  · -- a new episode has met what opened it and nothing else
    have hnil := ha.nil_of_open (hmove.opens_iff.mp hopens).2
    rw [episodes_concat, joinEpisode, if_pos hopens]
    refine ⟨episodes ts, _, rfl, fun kind => ?_⟩
    rw [hmem, hnil]
    simp [meets]
  · obtain ⟨past, newest, -, hmet, hjoined⟩ := hr.goes_on hmove hafter hopens
    refine ⟨past, _, hjoined, fun kind => ?_⟩
    rw [hmem, meets_concat, hmet, Bool.or_eq_true, decide_eq_true_iff, or_comm]

/-- A turn without a fault adds to no count. -/
lemma countP_modifyLast (kind : FaultCode) (es : List (List Turn)) {t : Turn}
    (ht : t.condition = none) :
    (es.modifyLast (· ++ [t])).countP (meets kind) = es.countP (meets kind) := by
  rcases List.eq_nil_or_concat es with rfl | ⟨past, newest, rfl⟩
  · rfl
  · have hsame : meets kind (newest ++ [t]) = meets kind newest := by
      rw [meets_concat, ht]
      simp
    rw [List.concat_eq_append, List.modifyLast_concat, List.countP_append, List.countP_append,
      List.countP_singleton, List.countP_singleton, hsame]

/-- A kind is counted in the cycle in which the episode meets it first. -/
lemma failures_kind_concat (ha : Accounts c l episode) (hr : Recalls ts l episode)
    (hmove : l.Move condition l' transition) (kind : FaultCode) :
    failures (ts ++ [⟨condition, transition⟩]) (.kind kind) =
      failures ts (.kind kind) +
        if kind ∈ nextEpisode episode transition ∧ kind ∉ episode then 1 else 0 := by
  show (episodes (ts ++ [_])).countP (meets kind) = (episodes ts).countP (meets kind) + _
  by_cases hafter : l'.isEngaged
  · have hmem := mem_nextEpisode ha hmove hafter kind
    by_cases hopens : transition.opens
    · have hnil := ha.nil_of_open (hmove.opens_iff.mp hopens).2
      rw [episodes_concat, joinEpisode, if_pos hopens, List.countP_append, List.countP_singleton]
      simp only [hmem]
      simp [hnil, meets]
    · obtain ⟨past, newest, hsplit, hmet, hjoined⟩ := hr.goes_on hmove hafter hopens
      rw [hjoined, hsplit, List.countP_append, List.countP_append, List.countP_singleton,
        List.countP_singleton, meets_concat]
      simp only [hmem, hmet]
      -- only an episode that has not met the kind yet can come to count
      cases meets kind newest <;> simp
  · -- an open latch was fed no fault, and its episode is over
    have hopens : ¬ transition.opens := fun h => hafter (hmove.opens_iff.mp h).1
    rw [episodes_concat, joinEpisode, if_neg hopens,
      countP_modifyLast kind _ (hmove.condition_eq_none hafter),
      nextEpisode_of_open ha hmove hafter]
    simp

/-- A topic is counted in the cycles in which its verdict turns to failure. -/
lemma failures_concat (ha : Accounts c l episode) (hr : Recalls ts l episode)
    (hmove : l.Move condition l' transition) (t : Topic) :
    failures (ts ++ [⟨condition, transition⟩]) t =
      failures ts t +
        if holds l' (nextEpisode episode transition) t && !holds l episode t then 1 else 0 := by
  cases t with
  | kind kind =>
    rw [failures_kind_concat ha hr hmove]
    simp [holds]
  | summary =>
    have hopens := hmove.opens_iff
    show (ts ++ [_]).countP _ = ts.countP _ + _
    rw [List.countP_append, List.countP_singleton]
    simp [holds, hopens]

end Steps

/-! ## The store -/

/-- A governor with the event store that it reports into. -/
structure Reporter where
  governor : Governor
  events : EventStore := {}

namespace Reporter

/-- The reporter after one update, whatever the store that the call brings along. -/
def handle (r : Reporter) (k : Call) : Reporter :=
  let u := r.governor.perform { k with services := { k.services with events := r.events } }
  ⟨u.governor, u.services.events⟩

/-- The reporter after a run of updates. -/
def run (r : Reporter) (ks : List Call) : Reporter :=
  ks.foldl handle r

lemma run_concat (r : Reporter) (ks : List Call) (k : Call) :
    r.run (ks ++ [k]) = (r.run ks).handle k :=
  List.foldl_concat ..

/-- An update of an initialised governor is a cycle, and its reports go into the store. -/
lemma handle_of_active {r : Reporter} (h : r.governor.active = some ⟨c, s⟩) (k : Call) :
    r.handle k = ⟨⟨some ⟨c, (k.outcome c s).state⟩⟩, r.events.recordAll (k.outcome c s).events⟩ := by
  unfold handle
  rw [perform_of_active h]
  rfl

end Reporter

/-- The kinds of topic whose code the latch decides on. -/
def Topic.Latched (c : Calibration) : Topic → Prop
  | kind fault => fault ∈ latchedKinds c
  | summary => True

/-- What store, state and history of a reporter have to do with each other. -/
structure Ledger (c : Calibration) (ts : List Turn) (s : State) (store : EventStore) : Prop where
  consistent : s.Consistent c
  accounts : Accounts c s.latch s.episode
  recalls : Recalls ts s.latch s.episode
  within : store.Within c.dtc.codes
  isFailed_eq : ∀ (t : Topic) code, t.code c = some code → store.isFailed code = s.fails t
  occurrences_eq : ∀ (t : Topic) code, t.Latched c → t.code c = some code →
    store.occurrences code = min 65535 (failures ts t)

lemma ledger_initial (hv : c.IsValid) : Ledger c [] (.initial c) {} where
  consistent := consistent_initial hv
  accounts := accounts_initial c
  recalls h := absurd h Bool.false_ne_true
  within := EventStore.within_empty _
  isFailed_eq t _ _ := (not_fails_initial c t).symm
  occurrences_eq t _ _ _ := by cases t <;> rfl

/-- A latched kind fails by the latch alone. -/
lemma fails_eq_holds {t : Topic} (hs : s.Consistent c) (ht : t.Latched c) :
    s.fails t = holds s.latch s.episode t := by
  have htimeout : (decide (t = .kind .cmdTimeout) && s.timeoutActive) = false := by
    rw [← Bool.not_eq_true, Bool.and_eq_true, decide_eq_true_iff]
    rintro ⟨rfl, hon⟩
    obtain ⟨rate, hramp⟩ := hs.ramps_of_timeout hon
    exact cmdTimeout_not_mem hramp ht
  rw [State.fails, htimeout, Bool.or_false]

variable {ts : List Turn} {store : EventStore}

/-- What a governed cycle adds to the history it adds to the counts. -/
lemma failures_outcome (hv : c.IsValid) (h : Ledger c ts s store) (ho : ¬ k.inputs.isOverride)
    {t : Topic} (ht : t.Latched c) :
    failures (ts ++ [k.turn c s]) t =
      failures ts t + if (k.outcome c s).state.fails t && !s.fails t then 1 else 0 := by
  have hcount := failures_concat h.accounts h.recalls (move_of_governed (c := c) ho) t
  rw [← episode_of_governed ho] at hcount
  rw [fails_eq_holds h.consistent ht, fails_eq_holds (consistent_outcome hv h.consistent k) ht]
  exact hcount

/-- Whatever the cycle, store, state and history stay together. -/
theorem ledger_outcome (hv : c.IsValid) (hcodes : c.dtc.codes.Nodup) (h : Ledger c ts s store)
    (k : Call) :
    Ledger c (if k.inputs.isOverride then ts else ts ++ [k.turn c s]) (k.outcome c s).state
      (store.recordAll (k.outcome c s).events) := by
  have hlen : c.dtc.codes.length ≤ maxEventEntries :=
    c.dtc.length_codes_le.trans (by decide)
  have hevents : ∀ e ∈ (k.outcome c s).events, e.1 ∈ c.dtc.codes := fun _ => mem_codes_of_mem_events
  have hstore : ∀ (t : Topic) code, t.code c = some code → _ := fun t code ht =>
    EventStore.recordAll_of_announces h.within hlen hevents
      (announces_outcome h.consistent h.accounts hcodes ht k) (h.isFailed_eq t code ht)
  refine ⟨consistent_outcome hv h.consistent k, accounts_outcome h.accounts k, ?_,
    (EventStore.entry_recordAll h.within hlen hevents).1, fun t code ht => (hstore t code ht).1,
    fun t code hlatched ht => ?_⟩
  · by_cases ho : k.inputs.isOverride
    · rw [if_pos ho, state_of_override ho]
      exact h.recalls
    · rw [if_neg ho, episode_of_governed ho]
      exact recalls_step h.accounts h.recalls (move_of_governed ho)
  · rw [(hstore t code ht).2, h.occurrences_eq t code hlatched ht]
    by_cases ho : k.inputs.isOverride
    · have hsame : (k.outcome c s).state.fails t = s.fails t := by
        rw [state_of_override ho]
        rfl
      rw [if_pos ho, hsame, Bool.and_not_self, if_neg Bool.false_ne_true]
    · rw [if_neg ho, failures_outcome hv h ho hlatched]
      split <;> omega

/-- Store, state and history stay together through every run. -/
theorem ledger_run (hv : c.IsValid) (hcodes : c.dtc.codes.Nodup) (ks : List Call) :
    let r := Reporter.run ⟨⟨some ⟨c, .initial c⟩⟩, {}⟩ ks
    r.governor.active = some ⟨c, (State.initial c).run c ks⟩ ∧
      Ledger c (turns c ks) ((State.initial c).run c ks) r.events := by
  induction ks using List.reverseRecOn with
  | nil => exact ⟨rfl, ledger_initial hv⟩
  | append_singleton ks k ih =>
    obtain ⟨hact, hledger⟩ := ih
    dsimp only
    rw [Reporter.run_concat, Reporter.handle_of_active hact, State.run_concat, turns_concat]
    exact ⟨rfl, ledger_outcome hv hcodes hledger k⟩

/-! ## What the store shows -/

/-- The status of the codes of a governor with calibration `c` in state `s`, after the turns `ts`.
-/
structure Mirrors (c : Calibration) (ts : List Turn) (s : State) (store : EventStore) : Prop where
  kind_failed_iff : ∀ kind ∈ latchedKinds c, ∀ code, dtcFor c kind = some code →
    (store.isFailed code ↔
      s.latch.isEngaged ∧ ∃ newest ∈ (episodes ts).getLast?, meets kind newest)
  summary_failed_iff : ∀ code, c.dtc.summary = some code →
    (store.isFailed code ↔ s.latch.isEngaged)
  /-- Down a ramp a stale command is reported without the latch. -/
  timeout_failed_iff : ∀ rate, c.failSafe = .ramp rate → ∀ code, c.dtc.cmdTimeout = some code →
    (store.isFailed code ↔ s.timeoutActive)
  kind_occurrences : ∀ kind ∈ latchedKinds c, ∀ code, dtcFor c kind = some code →
    store.occurrences code = min 65535 ((episodes ts).countP (meets kind))
  summary_occurrences : ∀ code, c.dtc.summary = some code →
    store.occurrences code = min 65535 (ts.countP (·.transition.opens))

/-- The kinds that an open or engaged latch holds are those of the newest episode. -/
lemma mem_episode_iff (ha : Accounts c s.latch s.episode) (hr : Recalls ts s.latch s.episode)
    (kind : FaultCode) :
    kind ∈ s.episode ↔ s.latch.isEngaged ∧ ∃ newest ∈ (episodes ts).getLast?, meets kind newest := by
  by_cases hengaged : s.latch.isEngaged
  · obtain ⟨past, newest, hsplit, hmet⟩ := hr hengaged
    rw [hmet, hsplit, List.getLast?_concat]
    simp [hengaged]
  · rw [ha.nil_of_open hengaged]
    simp [hengaged]

lemma Ledger.mirrors (h : Ledger c ts s store) : Mirrors c ts s store where
  kind_failed_iff kind hkind code hcode := by
    rw [h.isFailed_eq (.kind kind) code hcode, fails_eq_holds (t := .kind kind) h.consistent hkind,
      ← mem_episode_iff h.accounts h.recalls]
    exact decide_eq_true_iff
  summary_failed_iff code hcode := by
    rw [h.isFailed_eq .summary code hcode, fails_eq_holds (t := .summary) h.consistent trivial]
    rfl
  timeout_failed_iff rate hramp code hcode := by
    have hmem : .cmdTimeout ∉ s.episode := fun hmem =>
      cmdTimeout_not_mem hramp (h.accounts.latched _ hmem)
    rw [h.isFailed_eq (.kind .cmdTimeout) code hcode]
    simp [State.fails, holds, hmem]
  kind_occurrences kind hkind code hcode := h.occurrences_eq (.kind kind) code hkind hcode
  summary_occurrences code hcode := h.occurrences_eq .summary code trivial hcode

/-- In every run of updates from the start into a fresh store, the status of every code is that of
the fault episodes. -/
theorem status_mirrors_episodes (hg : init (some c) = .ok g) (hcodes : c.dtc.codes.Nodup)
    (ks : List Call) :
    let r := Reporter.run ⟨g, {}⟩ ks
    ∃ s, r.governor.active = some ⟨c, s⟩ ∧ Mirrors c (turns c ks) s r.events := by
  intro r
  obtain ⟨hv, rfl⟩ := init_eq_ok_iff.mp hg
  obtain ⟨hact, hledger⟩ := ledger_run hv hcodes ks
  exact ⟨_, hact, hledger.mirrors⟩

/-- A command out of range and then a failed read make one episode, the next command out of range
another: the range code has failed twice and still does, that of the sensor once and no longer. -/
theorem status_in_second_episode :
    let c := { Calibration.steering with latchClearCycles := 1 }
    let g : Governor := ⟨some ⟨c, .initial c⟩⟩
    let far : Call := ⟨{ command := 1000 }, .scripted 0, {}⟩
    let blind : Call := ⟨{ command := 0 }, (Rig.scripted 0).disturb { failReads := true }, {}⟩
    let calm : Call := ⟨{ command := 0 }, .scripted 0, {}⟩
    let ks := [far, blind, calm, far]
    let r := Reporter.run ⟨g, {}⟩ ks
    init (some c) = .ok g ∧ c.dtc.codes.Nodup ∧
      (∃ s, r.governor.active = some ⟨c, s⟩ ∧ Mirrors c (turns c ks) s r.events) ∧
      r.events.isFailed .steerRange ∧ ¬ r.events.isFailed .steerSensor ∧
      r.events.occurrences .steerRange = 2 ∧ r.events.occurrences .steerSensor = 1 := by
  intro c g far blind calm ks r
  have hg : init (some c) = .ok g := rfl
  have hcodes : c.dtc.codes.Nodup := by decide
  obtain ⟨s, hact, hmirrors⟩ := status_mirrors_episodes hg hcodes ks
  have hengaged : s.latch.isEngaged := by
    obtain ⟨hrun, -⟩ := ledger_run (init_eq_ok_iff.mp hg).1 hcodes ks
    have hsame : Active.mk c s = ⟨c, (State.initial c).run c ks⟩ :=
      Option.some.inj (hact.symm.trans hrun)
    injection hsame with _ hs
    rw [hs]
    decide +kernel
  have hrange := hmirrors.kind_failed_iff .outOfRange (by decide) .steerRange rfl
  have hsensor := hmirrors.kind_failed_iff .sensorFail (by decide) .steerSensor rfl
  have hranges := hmirrors.kind_occurrences .outOfRange (by decide) .steerRange rfl
  have hsensors := hmirrors.kind_occurrences .sensorFail (by decide) .steerSensor rfl
  refine ⟨hg, hcodes, ⟨s, hact, hmirrors⟩, hrange.mpr ⟨hengaged, by decide +kernel⟩, ?_,
    hranges.trans (by decide +kernel), hsensors.trans (by decide +kernel)⟩
  rw [hsensor]
  exact fun hfailed => absurd hfailed.2 (by decide +kernel)

end Governor
end FrontZone
