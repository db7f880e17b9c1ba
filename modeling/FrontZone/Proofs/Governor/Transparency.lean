import FrontZone.Proofs.Governor.EpisodeStatus
/-!
# Overrides and fault detection

An override moves the position and touches nothing that fault detection remembers. The position
comes back into detection at one point only: an actuator without a sensor compares the first command
that it accepts with the position. After any cycle at all this can no longer be another position
than the safe value (`steady_outcome`), so that all depends on how a run begins. `shows_follow` says
that a run shows what its governed cycles show when they follow each other from the position it
begins with, and the main statement compares two runs of the same governed cycles.
-/

namespace FrontZone
namespace Governor

variable {c : Calibration} {s s' : State} {k : Call}

/-! ## What fault detection remembers -/

/-- Two states with the same monitors, latch, soft timeout and episode. -/
structure Alike (s s' : State) : Prop where
  plausibility_eq : s'.plausibility = s.plausibility
  staleness_eq : s'.staleness = s.staleness
  latch_eq : s'.latch = s.latch
  timeoutActive_eq : s'.timeoutActive = s.timeoutActive
  episode_eq : s'.episode = s.episode

lemma Alike.refl (s : State) : Alike s s :=
  ⟨rfl, rfl, rfl, rfl, rfl⟩

lemma alike_override (h : Alike s s') (ho : k.inputs.isOverride) :
    Alike (k.outcome c s).state s' := by
  rw [state_of_override ho]
  exact ⟨h.plausibility_eq, h.staleness_eq, h.latch_eq, h.timeoutActive_eq, h.episode_eq⟩

/-! ## The reference -/

variable {command : Int32} {reading : Option Int32}

/-- A state whose reference position is the sensor's reading, an accepted command or the safe
value. -/
def Steady (c : Calibration) (s : State) : Prop :=
  c.feedback = .sensor ∨ s.staleness.lastCommand.isSome ∨ s.position = c.safeValue

/-- Alike and steady states compare a command with the same reference. -/
lemma referencePosition_congr (h : Alike s s') (hs : Steady c s) (hs' : Steady c s') :
    referencePosition c s' reading = referencePosition c s reading := by
  unfold referencePosition
  cases hfeedback : c.feedback with
  | sensor => rfl
  | loopBack =>
    dsimp only
    rw [h.staleness_eq]
    cases hlast : s.staleness.lastCommand with
    | some last => rfl
    | none =>
      have hposition : s.position = c.safeValue := by
        simpa [Steady, hfeedback, hlast] using hs
      have hposition' : s'.position = c.safeValue := by
        simpa [Steady, hfeedback, h.staleness_eq, hlast] using hs'
      rw [hposition, hposition']

lemma plausibility_congr (h : Alike s s') (hs : Steady c s) (hs' : Steady c s') :
    (examine c s' command reading).plausibility = (examine c s command reading).plausibility := by
  unfold examine
  dsimp only
  rw [referencePosition_congr h hs hs', h.plausibility_eq]

/-- Whether there is a reference at all does not depend on the state. -/
lemma referencePosition_isNone (c : Calibration) (s s' : State) (reading : Option Int32) :
    (referencePosition c s' reading).isNone = (referencePosition c s reading).isNone := by
  unfold referencePosition
  cases c.feedback <;> rfl

/-- The findings of alike states differ at most in the reference, once their plausibility counts
agree. -/
lemma condition_congr (h : Alike s s')
    (hp : (examine c s' command reading).plausibility =
      (examine c s command reading).plausibility) :
    (examine c s' command reading).staleness = (examine c s command reading).staleness ∧
      (examine c s' command reading).condition c = (examine c s command reading).condition c := by
  have hstaleness :
      (examine c s' command reading).staleness = (examine c s command reading).staleness := by
    unfold examine
    dsimp only
    rw [h.staleness_eq]
  have haccepted :
      (examine c s' command reading).accepted = (examine c s command reading).accepted := rfl
  have hreference : (examine c s' command reading).reference.isNone =
      (examine c s command reading).reference.isNone := referencePosition_isNone ..
  have hsome : (examine c s' command reading).reference.isSome =
      (examine c s command reading).reference.isSome := by
    rw [← Option.not_isNone, ← Option.not_isNone, hreference]
  refine ⟨hstaleness, ?_⟩
  unfold Findings.condition Findings.failsPlausibility Findings.isStale
  rw [hstaleness, haccepted, hreference, hsome, hp]

/-! ## One cycle -/

/-- What a report shows of fault detection. -/
structure Detection where
  transition : LatchTransition
  latch : LatchState
  fault : FaultCode
  disableLevel : UInt8
  deriving Repr, DecidableEq

/-- What a report shows of fault detection. -/
def detectionOf (r : CycleReport) : Detection :=
  ⟨r.transition, r.latch, r.fault, r.disableLevel⟩

/-- What a cycle shows of fault detection: in its report and to the event store. -/
def Outcome.shown (o : Outcome) : Detection × List (Dtc × EventStatus) :=
  (detectionOf o.report, o.events)

/-- Governed cycles on the same command and reading show the same and leave alike states, once the
plausibility counts agree; what the bus does is of no account. -/
lemma alike_governed (h : Alike s s') (accepts accepts' : Bool)
    (hp : (examine c s' command reading).plausibility =
      (examine c s command reading).plausibility) :
    let o := governedCycle c s command reading accepts
    let o' := governedCycle c s' command reading accepts'
    Alike o.state o'.state ∧ o'.shown = o.shown := by
  obtain ⟨hstaleness, hcondition⟩ := condition_congr h hp
  have hstale : (examine c s' command reading).isStale c =
      (examine c s command reading).isStale c := by
    unfold Findings.isStale
    rw [hstaleness]
  intro o o'
  have hstate : Alike o.state o'.state := by
    refine ⟨hp, hstaleness, ?_, ?_, ?_⟩
    · show (s'.latch.step _).1 = (s.latch.step _).1
      rw [h.latch_eq, hcondition]
    · show (if c.failSafe.latchesTimeout then s'.timeoutActive else _) =
        if c.failSafe.latchesTimeout then s.timeoutActive else _
      rw [h.timeoutActive_eq, hstale]
    · show nextEpisode s'.episode (s'.latch.step _).2 = nextEpisode s.episode (s.latch.step _).2
      rw [h.episode_eq, h.latch_eq, hcondition]
  refine ⟨hstate, ?_⟩
  -- report and events are read off the latch's step and the states before and after it
  have htransition : o'.report.transition = o.report.transition := by
    show (s'.latch.step _).2 = (s.latch.step _).2
    rw [h.latch_eq, hcondition]
  have hfault : o'.report.fault = o.report.fault := by
    show o'.state.fault = o.state.fault
    unfold State.fault
    rw [hstate.latch_eq, hstate.timeoutActive_eq]
  have hevents : o'.events = o.events := by
    show timeoutEvents c s'.timeoutActive o'.state.timeoutActive ++
        transitionEvents c s'.episode o'.report.transition =
      timeoutEvents c s.timeoutActive o.state.timeoutActive ++
        transitionEvents c s.episode o.report.transition
    rw [h.timeoutActive_eq, hstate.timeoutActive_eq, h.episode_eq, htransition]
  have hlatch : o'.report.latch = o.report.latch := congrArg Latch.state hstate.latch_eq
  have hlevel : o'.report.disableLevel = o.report.disableLevel :=
    congrArg Latch.disableLevel hstate.latch_eq
  unfold Outcome.shown detectionOf
  rw [htransition, hlatch, hfault, hlevel, hevents]

/-- After a governed cycle either a command has been accepted or the latch holds the safe value. -/
lemma steady_governed (c : Calibration) (s : State) (accepts : Bool) :
    Steady c (governedCycle c s command reading accepts).state := by
  by_cases hsensor : c.feedback = .sensor
  · exact Or.inl hsensor
  cases haccepted : c.range.accept (c.toInternal command) with
  | some target =>
    refine Or.inr (Or.inl ?_)
    show ((examine c s command reading).staleness.lastCommand).isSome
    unfold examine
    dsimp only
    rw [haccepted]
    show (s.staleness.observe target).lastCommand.isSome
    unfold Staleness.observe
    split
    · next hsame => rw [hsame]; rfl
    · rfl
  | none =>
    -- a command out of range latches a fault in this very cycle
    refine Or.inr (Or.inr ?_)
    have hcondition : (examine c s command reading).condition c = some .outOfRange := by
      have hreference : (examine c s command reading).reference.isNone = false := by
        show (referencePosition c s reading).isNone = false
        unfold referencePosition
        cases hfeedback : c.feedback with
        | sensor => exact absurd hfeedback hsensor
        | loopBack => rfl
      have hnone : (examine c s command reading).accepted.isNone := by
        show (c.range.accept (c.toInternal command)).isNone
        rw [haccepted]
        rfl
      unfold Findings.condition
      rw [hreference, hnone]
      rfl
    obtain ⟨level, hfaulted⟩ := (Latch.step_faulted_iff (l := s.latch)).mpr hcondition
    show (if (s.latch.step ((examine c s command reading).condition c)).1.isEngaged then c.safeValue
      else _) = c.safeValue
    rw [if_pos]
    simp [Latch.isEngaged, hfaulted]

/-- After any cycle the position is no reference but the safe value. -/
lemma steady_outcome (c : Calibration) (s : State) (k : Call) : Steady c (k.outcome c s).state := by
  by_cases ho : k.inputs.isOverride
  · rw [state_of_override ho]
    exact Or.inr (Or.inr rfl)
  · rw [Call.outcome_of_governed ho]
    exact steady_governed c s _

/-! ## Runs of governed cycles -/

/-- What a governed cycle has to go by: the command, and what the sensor gives. -/
def Call.heard (k : Call) (c : Calibration) : Int32 × Option Int32 :=
  (k.inputs.command, k.reading c)

/-- What the governed cycles of a run have to go by, oldest first. -/
def heard (c : Calibration) (ks : List Call) : List (Int32 × Option Int32) :=
  (ks.filter fun k => !k.inputs.isOverride).map (·.heard c)

/-- The outcomes of governed cycles that follow each other without any override. -/
def State.follow (c : Calibration) : State → List (Int32 × Option Int32) → List Outcome
  | _, [] => []
  | s, x :: xs =>
    let o := governedCycle c s x.1 x.2 true
    o :: State.follow c o.state xs

/-- The outcomes of the governed cycles of a run. -/
def State.governedOutcomes (c : Calibration) (s : State) (ks : List Call) : List Outcome :=
  (s.outcomes c ks).filter fun o => !o.report.overrideActive

lemma heard_cons_of_override (ho : k.inputs.isOverride) (ks : List Call) :
    heard c (k :: ks) = heard c ks := by
  simp [heard, ho]

lemma heard_cons_of_governed (ho : ¬ k.inputs.isOverride) (ks : List Call) :
    heard c (k :: ks) = k.heard c :: heard c ks := by
  simp [heard, ho]

lemma governedOutcomes_cons_of_override (ho : k.inputs.isOverride) (ks : List Call) :
    s.governedOutcomes c (k :: ks) = (k.outcome c s).state.governedOutcomes c ks := by
  unfold State.governedOutcomes
  rw [State.outcomes, List.filter_cons, Call.outcome_of_override ho]
  rfl

lemma governedOutcomes_cons_of_governed (ho : ¬ k.inputs.isOverride) (ks : List Call) :
    s.governedOutcomes c (k :: ks) =
      k.outcome c s :: (k.outcome c s).state.governedOutcomes c ks := by
  unfold State.governedOutcomes
  rw [State.outcomes, List.filter_cons, Call.outcome_of_governed ho]
  rfl

/-- Whether a run begins with an override. -/
def startsHeld (ks : List Call) : Bool :=
  ks.head?.any (·.inputs.isOverride)

/-- A run shows what its governed cycles show from any state that is alike and takes the first of
their commands in the same way. -/
lemma shows_follow {ks : List Call} (h : Alike s s') (hs : startsHeld ks → Steady c s)
    (hfirst : ∀ x ∈ (heard c ks).head?,
      (examine c s' x.1 x.2).plausibility = (examine c s x.1 x.2).plausibility) :
    (s'.follow c (heard c ks)).map Outcome.shown = (s.governedOutcomes c ks).map Outcome.shown := by
  induction ks generalizing s s' with
  | nil => rfl
  | cons k ks ih =>
    by_cases ho : k.inputs.isOverride
    · have hsteady : Steady c s := hs ho
      have hkept : Alike (k.outcome c s).state s := alike_override (Alike.refl s) ho
      rw [heard_cons_of_override ho] at hfirst ⊢
      rw [governedOutcomes_cons_of_override ho]
      refine ih (alike_override h ho) (fun _ => steady_outcome c s k) fun x hx => ?_
      rw [hfirst x hx, plausibility_congr hkept (steady_outcome c s k) hsteady]
    · rw [heard_cons_of_governed ho] at hfirst ⊢
      rw [governedOutcomes_cons_of_governed ho, Call.outcome_of_governed ho]
      obtain ⟨hnext, hshown⟩ :=
        alike_governed h (!k.services.bus.rejects) true (hfirst (k.heard c) rfl)
      have hsteady : Steady c (governedCycle c s k.inputs.command (k.reading c)
          (!k.services.bus.rejects)).state := steady_governed c s _
      -- from here on the position is no reference any more
      rw [State.follow, List.map_cons, List.map_cons]
      refine congrArg₂ List.cons hshown (ih hnext (fun _ => hsteady) fun x _ => ?_)
      exact plausibility_congr hnext hsteady (steady_governed c s' true)

/-! ## Whole runs -/

/-- The position that the first governed cycle of a run finds, as long as there is one. -/
def startPosition (c : Calibration) (ks : List Call) : Int32 :=
  if startsHeld ks then c.safeValue else c.initialPosition

/-- The initial state with the position that the first governed cycle finds. -/
def State.start (c : Calibration) (ks : List Call) : State :=
  { State.initial c with position := startPosition c ks }

lemma governedOutcomes_start (c : Calibration) (ks : List Call) :
    (State.start c ks).governedOutcomes c ks = (State.initial c).governedOutcomes c ks := by
  cases ks with
  | nil => rfl
  | cons k ks =>
    by_cases ho : k.inputs.isOverride
    · -- the override overwrites the position
      rw [governedOutcomes_cons_of_override ho, governedOutcomes_cons_of_override ho,
        state_of_override ho, state_of_override ho]
      rfl
    · have hstart : startPosition c (k :: ks) = c.initialPosition := if_neg ho
      rw [State.start, hstart]
      rfl

/-- Without a sensor the first command is checked against the position that its cycle finds. -/
lemma plausibility_start (hv : c.IsValid) {ks ks' : List Call}
    (hfirst : c.feedback = .loopBack → c.range.contains (c.toInternal command) →
      (Far c (c.toInternal command) (startPosition c ks') ↔
        Far c (c.toInternal command) (startPosition c ks))) :
    (examine c (.start c ks') command reading).plausibility =
      (examine c (.start c ks) command reading).plausibility := by
  cases hfeedback : c.feedback with
  | sensor =>
    exact plausibility_congr ⟨rfl, rfl, rfl, rfl, rfl⟩ (Or.inl hfeedback) (Or.inl hfeedback)
  | loopBack =>
    -- nothing has been accepted yet, so the position is the reference
    have hreference (ks : List Call) :
        referencePosition c (.start c ks) reading = some (startPosition c ks) := by
      unfold referencePosition
      rw [hfeedback]
      rfl
    unfold examine
    dsimp only
    rw [hreference, hreference]
    by_cases hrange : c.range.contains (c.toInternal command)
    · have haccept : c.range.accept (c.toInternal command) = some (c.toInternal command) :=
        if_pos hrange
      rw [haccept]
      dsimp only
      rw [check_eq hv, check_eq hv]
      simp only [hfirst hfeedback hrange]
      rfl
    · have haccept : c.range.accept (c.toInternal command) = none := if_neg hrange
      rw [haccept]
      rfl

/-- The detections of governed cycles among what is reported. -/
def detections (reports : List CycleReport) : List Detection :=
  (reports.filter fun r => !r.overrideActive).map detectionOf

/-- What an update reports to the event store, in order. -/
def reported (g : Governor) (k : Call) : List (Dtc × EventStatus) :=
  match g.active with
  | none => []
  | some ⟨c, s⟩ => (k.outcome c s).events

/-- What the updates of a run report to the event store, in order. -/
def events : Governor → List Call → List (Dtc × EventStatus)
  | _, [] => []
  | g, k :: ks => g.reported k ++ events (g.perform k).governor ks

lemma events_of_active {g : Governor} (h : g.active = some ⟨c, s⟩) (ks : List Call) :
    g.events ks = (s.outcomes c ks).flatMap (·.events) := by
  induction ks generalizing g s with
  | nil => rfl
  | cons k ks ih =>
    rw [events, reported, h, perform_of_active h, ih rfl]
    rfl

/-- The event store takes in the events of a run, whatever it held before. -/
lemma store_after_run {g : Governor} (h : g.active = some ⟨c, s⟩) (ks : List Call)
    (store : EventStore) :
    (Reporter.run ⟨g, store⟩ ks).events = store.recordAll (g.events ks) := by
  induction ks generalizing g s store with
  | nil => rfl
  | cons k ks ih =>
    have hstep : Reporter.handle ⟨g, store⟩ k =
        ⟨(g.perform k).governor, store.recordAll (g.reported k)⟩ := by
      rw [Reporter.handle_of_active h, perform_of_active h, reported, h]
    show (Reporter.run (Reporter.handle ⟨g, store⟩ k) ks).events = _
    rw [hstep, ih (g := (g.perform k).governor) (by rw [perform_of_active h]), events,
      EventStore.recordAll, EventStore.recordAll, EventStore.recordAll, List.foldl_append]

/-- Overrides report nothing. -/
lemma events_governedOutcomes (c : Calibration) (s : State) (ks : List Call) :
    (s.governedOutcomes c ks).flatMap (·.events) = (s.outcomes c ks).flatMap (·.events) := by
  induction ks generalizing s with
  | nil => rfl
  | cons k ks ih =>
    rw [State.outcomes, List.flatMap_cons, ← ih]
    by_cases ho : k.inputs.isOverride
    · rw [governedOutcomes_cons_of_override ho, events_of_override ho]
      rfl
    · rw [governedOutcomes_cons_of_governed ho, List.flatMap_cons]

/-- Two runs from the start with the same governed cycles, however many overrides each has and
wherever, show the same detections and report the same events, as long as the first command without
a sensor, if it is in range, is as plausible for the position that one run begins with as for that
of the other. -/
theorem detection_unmoved_by_overrides {g : Governor} (hg : init (some c) = .ok g)
    {ks ks' : List Call} (hsame : heard c ks' = heard c ks)
    (hfirst : c.feedback = .loopBack → ∀ x ∈ (heard c ks).head?,
      c.range.contains (c.toInternal x.1) →
        (Far c (c.toInternal x.1) (startPosition c ks') ↔
          Far c (c.toInternal x.1) (startPosition c ks))) :
    detections (g.reports ks') = detections (g.reports ks) ∧ g.events ks' = g.events ks ∧
      ∀ store, (Reporter.run ⟨g, store⟩ ks').events = (Reporter.run ⟨g, store⟩ ks).events := by
  obtain ⟨hv, rfl⟩ := init_eq_ok_iff.mp hg
  have hsteady (ks : List Call) (hheld : startsHeld ks) : Steady c (.start c ks) :=
    Or.inr (Or.inr (if_pos hheld))
  have hshown : ((State.initial c).governedOutcomes c ks').map Outcome.shown =
      ((State.initial c).governedOutcomes c ks).map Outcome.shown := by
    -- both runs show what the governed cycles show from the position that one of them begins with
    have hown : ((State.start c ks').follow c (heard c ks')).map Outcome.shown =
        ((State.start c ks').governedOutcomes c ks').map Outcome.shown :=
      shows_follow (Alike.refl _) (hsteady ks') fun _ _ => rfl
    have hother : ((State.start c ks').follow c (heard c ks)).map Outcome.shown =
        ((State.start c ks).governedOutcomes c ks).map Outcome.shown :=
      shows_follow ⟨rfl, rfl, rfl, rfl, rfl⟩ (hsteady ks) fun x hx =>
        plausibility_start hv fun hfeedback => hfirst hfeedback x hx
    rw [← governedOutcomes_start c ks', ← governedOutcomes_start c ks, ← hown, ← hother, hsame]
  have hdetections (ks : List Call) : detections ((State.initial c).reports c ks) =
      (((State.initial c).governedOutcomes c ks).map Outcome.shown).map Prod.fst := by
    rw [detections, State.reports, List.filter_map, List.map_map, List.map_map]
    rfl
  have hevents (ks : List Call) : ((State.initial c).outcomes c ks).flatMap (·.events) =
      (((State.initial c).governedOutcomes c ks).map Outcome.shown).flatMap Prod.snd := by
    rw [← events_governedOutcomes, List.flatMap_map]
    rfl
  have hsameEvents : Governor.events ⟨some ⟨c, .initial c⟩⟩ ks' =
      Governor.events ⟨some ⟨c, .initial c⟩⟩ ks := by
    rw [events_of_active rfl, events_of_active rfl, hevents, hevents, hshown]
  refine ⟨?_, hsameEvents, fun store => ?_⟩
  · rw [reports_of_active rfl, reports_of_active rfl, hdetections, hdetections, hshown]
  · rw [store_after_run rfl, store_after_run rfl, hsameEvents]

/-- A brake that is stopped between and during jumps of its command confirms them as implausible in
the same cycle and with the same events as one that is never stopped. -/
theorem jumps_detected_despite_overrides :
    let c := Calibration.brake
    let g : Governor := ⟨some ⟨c, .initial c⟩⟩
    let call (command : Int32) : Call := ⟨{ command }, .scripted 0, {}⟩
    let stop : Call := ⟨{ command := 7, emergencyStop := true }, .scripted 0, {}⟩
    let ks := [call 0, call 50, call 0, call 50]
    let ks' := [call 0, stop, call 50, stop, stop, call 0, call 50]
    init (some c) = .ok g ∧ heard c ks' = heard c ks ∧
      startPosition c ks' = startPosition c ks ∧
      (detections (g.reports ks')).getLast? =
        some ⟨.confirmed 1 .plausibility, .faulted 1 .plausibility, .plausibility, 1⟩ ∧
      detections (g.reports ks') = detections (g.reports ks) ∧ g.events ks' = g.events ks := by
  intro c g call stop ks ks'
  have hg : init (some c) = .ok g := rfl
  have hheard : heard c ks' = heard c ks := by decide +kernel
  have hstart : startPosition c ks' = startPosition c ks := rfl
  obtain ⟨hdetections, hevents, -⟩ :=
    detection_unmoved_by_overrides hg hheard fun _ _ _ _ => by rw [hstart]
  exact ⟨hg, hheard, hstart, by decide +kernel, hdetections, hevents⟩

/-- A brake that is stopped before its first command compares that command with the safe value
instead of its initial position, and confirms jumps as implausible one cycle earlier. -/
theorem override_moves_first_reference :
    let c := Calibration.brake
    let g : Governor := ⟨some ⟨c, .initial c⟩⟩
    let call (command : Int32) : Call := ⟨{ command }, .scripted 0, {}⟩
    let stop : Call := ⟨{ command := 0, emergencyStop := true }, .scripted 0, {}⟩
    let ks := [call 0, call 50, call 0]
    let ks' := stop :: ks
    init (some c) = .ok g ∧ heard c ks' = heard c ks ∧
      detections (g.reports ks') ≠ detections (g.reports ks) ∧ g.events ks' ≠ g.events ks := by
  intro c g call stop ks ks'
  exact ⟨rfl, by decide +kernel, by decide +kernel, by decide +kernel⟩

end Governor
end FrontZone
