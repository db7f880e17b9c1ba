import FrontZone.Proofs.Governor.Cycle
import FrontZone.Proofs.History
/-!
# The motor-cutoff schedule

A governor that broadcasts arms its notifier in the middle of a cycle and lets it tick at the end of
every cycle, held ones included. Over the history of armings the countdown is not needed: a frame
goes out in a cycle exactly if one of the newest `r` cycles armed the notifier, where `r` is the
repeat count. `Transmits` says what a due frame does to the world: a bus that takes it records and
counts it, and of one that refuses it only the notifier's count of failures tells.
-/

namespace FrontZone

/-! ## Armings -/

/-- How many frames are still due after a history of armings, one entry for each cycle: an arming
starts a sequence of `r` frames with its own cycle, and every cycle uses one up. -/
def framesLeft (r : Nat) (armings : List Bool) : Nat :=
  if true ∈ armings then r - 1 - streak (fun armed => !armed) armings else 0

/-- The frames due in the next cycle: a full sequence if it arms, else what is left. -/
def framesDue (r : Nat) (armings : List Bool) (arms : Bool) : Nat :=
  if arms then r else framesLeft r armings

lemma framesLeft_concat (r : Nat) (armings : List Bool) (arms : Bool) :
    framesLeft r (armings ++ [arms]) = framesDue r armings arms - 1 := by
  unfold framesLeft framesDue framesLeft
  rw [streak_concat]
  cases arms with
  | true => simp
  | false =>
    simp only [List.mem_append, List.mem_singleton, Bool.true_eq_false, or_false, Bool.not_false,
      if_true, Bool.false_eq_true, if_false]
    split <;> omega

/-- Frames are due in a cycle exactly if it or one of the `r - 1` cycles before it armed. -/
lemma framesDue_ne_zero_iff (r : Nat) (armings : List Bool) (arms : Bool) :
    framesDue r armings arms ≠ 0 ↔ true ∈ lastN r (armings ++ [arms]) := by
  have hdue : true ∈ lastN r (armings ++ [arms]) ↔
      true ∈ armings ++ [arms] ∧ streak (fun armed => !armed) (armings ++ [arms]) < r := by
    simpa using @exists_mem_lastN_iff Bool id (armings ++ [arms]) r
  rw [hdue, streak_concat, framesDue, framesLeft]
  cases arms with
  | true => simp [Nat.pos_iff_ne_zero]
  | false =>
    simp only [List.mem_append, List.mem_singleton, Bool.true_eq_false, or_false, Bool.not_false,
      if_true, Bool.false_eq_true, if_false]
    split
    · next hmem => simp only [hmem, true_and]; omega
    · next hmem => simp [hmem]

/-! ## The notifier -/

/-- A tick uses up a frame that is due. -/
lemma Cutoff.toNat_remaining_tick (n : Cutoff) (accepts : Bool) :
    (n.tick accepts).1.remaining.toNat = n.remaining.toNat - 1 := by
  unfold tick isSending
  by_cases hz : n.remaining = 0
  · simp [hz]
  · have hpos : (1 : UInt8) ≤ n.remaining := by
      rw [UInt8.le_iff_toNat_le, UInt8.toNat_one]
      have hne : n.remaining.toNat ≠ 0 := fun h => hz (UInt8.toNat_inj.mp h)
      omega
    have hsub : (n.remaining - 1).toNat = n.remaining.toNat - 1 := UInt8.toNat_sub_of_le _ _ hpos
    cases accepts <;> simp [hz, hsub]

lemma Cutoff.repeatCount_tick (n : Cutoff) (accepts : Bool) :
    (n.tick accepts).1.repeatCount = n.repeatCount := by
  unfold tick
  cases n.isSending <;> cases accepts <;> rfl

lemma Cutoff.tick_ne_idle_iff (n : Cutoff) (accepts : Bool) :
    (n.tick accepts).2 ≠ .idle ↔ n.isSending := by
  unfold tick
  cases n.isSending <;> cases accepts <;> simp

/-! ## The bus -/

/-- What a cycle leaves of the frames recorded, their counts and the count of failures, where `due`
says whether a frame is due: on a bus that accepts, one more frame, for which the oldest makes room;
on one that refuses, one more failure; without a frame, nothing new. Counts stay at their largest. -/
structure Transmits (due : Prop) (failed failed' : UInt32) (b b' : Bus) : Prop where
  rejects_eq : b'.rejects = b.rejects
  of_accepted : due → b.rejects = false →
    b'.frames = lastN maxLoggedFrames (b.frames ++ [.motorCutoff]) ∧
      b'.total.toNat = min 4294967295 (b.total.toNat + 1) ∧
      b'.cutoffFrames.toNat = min 4294967295 (b.cutoffFrames.toNat + 1) ∧ failed' = failed
  of_refused : due → b.rejects = true →
    b'.frames = b.frames ∧ b'.total = b.total ∧ b'.cutoffFrames = b.cutoffFrames ∧
      failed'.toNat = min 4294967295 (failed.toNat + 1)
  of_idle : ¬ due →
    b'.frames = b.frames ∧ b'.total = b.total ∧ b'.cutoffFrames = b.cutoffFrames ∧ failed' = failed

/-- The tick of a notifier and the frame it sends. -/
lemma Cutoff.transmits_tick {due : Prop} (n : Cutoff) (b : Bus) (hdue : due ↔ n.isSending) :
    Transmits due n.failedSends (n.tick (!b.rejects)).1.failedSends b (b.broadcast n) := by
  unfold tick Bus.broadcast Bus.transmit
  cases hsending : n.isSending with
  | false =>
    have hidle : ¬ due := fun h => Bool.false_ne_true (hsending.symm.trans (hdue.mp h))
    exact ⟨rfl, fun h => absurd h hidle, fun h => absurd h hidle, fun _ => ⟨rfl, rfl, rfl, rfl⟩⟩
  | true =>
    have hsends : due := hdue.mpr hsending
    cases hrejects : b.rejects with
    | false =>
      refine ⟨hrejects.symm, fun _ _ => ⟨rfl, ?_, ?_, rfl⟩, fun _ h => ?_,
        fun h => absurd hsends h⟩
      · exact toNat_countUp32 b.total
      · exact toNat_countUp32 b.cutoffFrames
      · exact nomatch hrejects.symm.trans h
    | true =>
      refine ⟨rfl, fun _ h => ?_, fun _ _ => ⟨rfl, rfl, rfl, ?_⟩, fun h => absurd hsends h⟩
      · exact nomatch hrejects.symm.trans h
      · exact toNat_countUp32 n.failedSends

namespace Governor

variable {c : Calibration} {s : State} {g : Governor} {k : Call}

/-! ## One cycle -/

/-- The notifier as a cycle lets it tick: armed if the transition of the cycle calls for it. -/
def Call.notifier (k : Call) (c : Calibration) (s : State) : Option Cutoff :=
  if (k.outcome c s).report.transition.arms then s.cutoff.map Cutoff.arm else s.cutoff

/-- What every cycle does with a notifier. -/
lemma outcome_of_notifier {n : Cutoff} (h : k.notifier c s = some n) :
    let o := k.outcome c s
    let t := n.tick (!k.services.bus.rejects)
    o.state.cutoff = some t.1 ∧ o.sendsCutoff = decide (t.2 ≠ .idle) ∧
      o.report.cutoffActive = (o.sendsCutoff || o.report.fault ≠ .noFault) := by
  unfold Call.notifier at h
  intro o t
  have hcase : ∃ s' transition events notes override,
      o = finish c s' transition override (!k.services.bus.rejects) events notes ∧
        s'.cutoff = some n := by
    by_cases ho : k.inputs.isOverride
    · rw [Call.outcome_of_override ho] at h
      exact ⟨_, _, _, _, _, Call.outcome_of_override ho, h⟩
    · rw [Call.outcome_of_governed ho] at h
      exact ⟨_, _, _, _, _, Call.outcome_of_governed ho, h⟩
  obtain ⟨s', transition, events, notes, override, hfinish, hcutoff⟩ := hcase
  rw [hfinish]
  simp only [finish, State.tickCutoff, hcutoff]
  exact ⟨rfl, rfl, rfl⟩

/-- A state whose notifier counts down the sequences of a history of armings. -/
def State.Counts (s : State) (r : UInt8) (armings : List Bool) : Prop :=
  ∃ n, s.cutoff = some n ∧ n.repeatCount = r ∧ n.remaining.toNat = framesLeft r.toNat armings

lemma counts_initial {r : UInt8} (hr : c.escalation = .cutoffBroadcast r) :
    (State.initial c).Counts r [] := by
  refine ⟨{ repeatCount := r }, ?_, rfl, rfl⟩
  simp only [State.initial, hr]

/-- The frames that a counting notifier has to send in a cycle; arming it leaves its failures
counted. -/
lemma notifier_of_counts {r : UInt8} {armings : List Bool} (h : s.Counts r armings) (k : Call) :
    ∃ n, k.notifier c s = some n ∧ n.repeatCount = r ∧
      n.remaining.toNat = framesDue r.toNat armings (k.outcome c s).report.transition.arms ∧
      s.cutoff.map (·.failedSends) = some n.failedSends := by
  obtain ⟨n, hn, hrepeat, hremaining⟩ := h
  unfold Call.notifier framesDue
  split
  · exact ⟨n.arm, by rw [hn]; rfl, hrepeat, by rw [← hrepeat]; rfl, by rw [hn]; rfl⟩
  · exact ⟨n, hn, hrepeat, hremaining, by rw [hn]; rfl⟩

/-- What one update of a broadcasting governor does that finds it in state `s` and the bus as `b`,
where `armings` says which cycles so far, the present one last, armed the notifier. -/
structure KeepsSchedule (r : Nat) (armings : List Bool) (s : State) (b : Bus) (o : Outcome) :
    Prop where
  /-- A frame goes out exactly if one of the newest `r` cycles armed. -/
  sends_iff : o.sendsCutoff ↔ true ∈ lastN r armings
  /-- What becomes of the frame, if there is one, on the bus and in the count of failures. -/
  transmits : ∃ failed failed', s.cutoff.map (·.failedSends) = some failed ∧
    o.state.cutoff.map (·.failedSends) = some failed' ∧
    Transmits (true ∈ lastN r armings) failed failed' b
      (if o.sendsCutoff then b.transmit .motorCutoff else b)
  remaining_eq : o.state.cutoffRemaining.toNat = framesLeft r armings
  active_iff : o.report.cutoffActive ↔ o.sendsCutoff ∨ o.report.fault ≠ .noFault

/-- One cycle keeps to the schedule, and the notifier goes on counting. -/
lemma keepsSchedule_outcome {r : UInt8} {armings : List Bool} (h : s.Counts r armings) (k : Call) :
    let armings' := armings ++ [(k.outcome c s).report.transition.arms]
    KeepsSchedule r.toNat armings' s k.services.bus (k.outcome c s) ∧
      (k.outcome c s).state.Counts r armings' := by
  intro armings'
  obtain ⟨n, hn, hrepeat, hdue, hfailed⟩ := notifier_of_counts (c := c) h k
  obtain ⟨hcutoff, hflag, hactive⟩ := outcome_of_notifier hn
  have hleft : (n.tick (!k.services.bus.rejects)).1.remaining.toNat =
      framesLeft r.toNat armings' := by
    rw [Cutoff.toNat_remaining_tick, hdue, framesLeft_concat]
  have hsending : true ∈ lastN r.toNat armings' ↔ n.isSending := by
    rw [← framesDue_ne_zero_iff, ← hdue, Cutoff.isSending, decide_eq_true_iff, ne_eq, ne_eq,
      ← UInt8.toNat_inj, UInt8.toNat_zero]
  have hsends : (k.outcome c s).sendsCutoff = n.isSending := by
    rw [hflag, Bool.eq_iff_iff, decide_eq_true_iff]
    exact n.tick_ne_idle_iff _
  have hfailed' : (k.outcome c s).state.cutoff.map (·.failedSends) =
      some (n.tick (!k.services.bus.rejects)).1.failedSends := by
    rw [hcutoff]
    rfl
  refine ⟨⟨?_, ⟨_, _, hfailed, hfailed', ?_⟩, ?_, ?_⟩, _, hcutoff, ?_, hleft⟩
  · rw [hsends, hsending]
  · rw [hsends]
    exact n.transmits_tick k.services.bus hsending
  · unfold State.cutoffRemaining
    rw [hcutoff]
    exact hleft
  · rw [hactive]
    simp
  · rw [Cutoff.repeatCount_tick, hrepeat]

/-! ## Runs -/

/-- Which of the cycles reported armed the notifier. -/
def armings (reports : List CycleReport) : List Bool :=
  reports.map (·.transition.arms)

lemma armings_concat (reports : List CycleReport) (report : CycleReport) :
    armings (reports ++ [report]) = armings reports ++ [report.transition.arms] :=
  List.map_append

/-- The notifier counts down the sequences through every run. -/
theorem counts_run {r : UInt8} (hr : c.escalation = .cutoffBroadcast r) (ks : List Call) :
    ((State.initial c).run c ks).Counts r (armings ((State.initial c).reports c ks)) := by
  induction ks using List.reverseRecOn with
  | nil => exact counts_initial hr
  | append_singleton ks k ih =>
    rw [State.run_concat, State.reports_concat, armings_concat]
    exact (keepsSchedule_outcome ih k).2

/-- Every cycle of every run keeps to the schedule. -/
lemma keepsSchedule_run {r : UInt8} (hr : c.escalation = .cutoffBroadcast r) (ks : List Call)
    (k : Call) :
    KeepsSchedule r.toNat (armings ((State.initial c).reports c (ks ++ [k])))
      ((State.initial c).run c ks) k.services.bus (k.outcome c ((State.initial c).run c ks)) := by
  rw [State.reports_concat, armings_concat]
  exact (keepsSchedule_outcome (counts_run hr ks) k).1

/-! ## What the bus cannot change -/

variable {k' : Call}

/-- Two cycles with the same inputs and the same reading differ at most in the notifier and in what
the report says of it. -/
lemma outcome_alike (hinputs : k'.inputs = k.inputs) (hreading : k'.reading c = k.reading c)
    (cutoff : Option Cutoff) :
    let o := k.outcome c s
    let o' := k'.outcome c { s with cutoff }
    o'.state = { o.state with cutoff := o'.state.cutoff } ∧
      o'.report = { o.report with cutoffActive := o'.report.cutoffActive } := by
  unfold Call.outcome cycle
  rw [hinputs, hreading]
  by_cases ho : k.inputs.isOverride
  · rw [if_pos ho, if_pos ho]
    exact ⟨rfl, rfl⟩
  · rw [if_neg ho, if_neg ho]
    exact ⟨rfl, rfl⟩

/-- What an update gets to see: its inputs and the reading, but not the answer of the bus. -/
def Call.seen (k : Call) (c : Calibration) : CycleInputs × Option Int32 :=
  (k.inputs, k.reading c)

/-- Runs that get to see the same report the same and end in states that differ in the notifier
only. -/
theorem reports_alike {r : UInt8} (hr : c.escalation = .cutoffBroadcast r) {ks ks' : List Call}
    (h : ks'.map (·.seen c) = ks.map (·.seen c)) :
    (∃ cutoff, (State.initial c).run c ks' = { (State.initial c).run c ks with cutoff }) ∧
      (State.initial c).reports c ks' = (State.initial c).reports c ks := by
  induction ks using List.reverseRecOn generalizing ks' with
  | nil =>
    obtain rfl := List.map_eq_nil_iff.mp h
    exact ⟨⟨_, rfl⟩, rfl⟩
  | append_singleton ks k ih =>
    rw [List.map_append] at h
    obtain ⟨ks', last, rfl, hpast, hlast⟩ := List.map_eq_append_iff.mp h
    obtain ⟨k', rfl, hseen⟩ := List.map_eq_singleton_iff.mp hlast
    obtain ⟨hinputs, hreading⟩ := Prod.mk.inj hseen
    obtain ⟨⟨cutoff, hrun⟩, hreports⟩ := ih hpast
    obtain ⟨hstate, hreport⟩ :=
      outcome_alike (s := (State.initial c).run c ks) hinputs hreading cutoff
    rw [← hrun] at hstate hreport
    -- the reports agree on the transition and the fault, hence on which frames are due
    have harmings : armings ((State.initial c).reports c (ks' ++ [k'])) =
        armings ((State.initial c).reports c (ks ++ [k])) := by
      rw [State.reports_concat, State.reports_concat, armings_concat, armings_concat, hreports,
        hreport]
    have hkeeps := keepsSchedule_run hr ks k
    have hkeeps' := keepsSchedule_run hr ks' k'
    have hactive : (k'.outcome c ((State.initial c).run c ks')).report.cutoffActive =
        (k.outcome c ((State.initial c).run c ks)).report.cutoffActive := by
      rw [Bool.eq_iff_iff, hkeeps'.active_iff, hkeeps.active_iff, hkeeps'.sends_iff,
        hkeeps.sends_iff, harmings, hreport]
    refine ⟨⟨(k'.outcome c ((State.initial c).run c ks')).state.cutoff, ?_⟩, ?_⟩
    · rw [State.run_concat, State.run_concat]
      exact hstate
    · rw [hactive] at hreport
      rw [State.reports_concat, State.reports_concat, hreports]
      exact congrArg (_ ++ [·]) hreport

/-- In every run of updates from the start, every update of a governor that broadcasts keeps to the
schedule of its armings, and what is reported does not depend on which frames the bus takes. -/
theorem cutoff_schedule {r : UInt8} (hg : init (some c) = .ok g)
    (hr : c.escalation = .cutoffBroadcast r) (ks : List Call) (k : Call) :
    let past := g.run (ks.map .update)
    (∃ s, past.active = some ⟨c, s⟩ ∧
        (past.perform k).governor.active = some ⟨c, (k.outcome c s).state⟩ ∧
        (past.perform k).report = .ok (k.outcome c s).report ∧
        (past.perform k).services.bus =
          (if (k.outcome c s).sendsCutoff then k.services.bus.transmit .motorCutoff
          else k.services.bus) ∧
        KeepsSchedule r.toNat (armings (g.reports (ks ++ [k]))) s k.services.bus
          (k.outcome c s)) ∧
      ∀ ks', ks'.map (·.seen c) = (ks ++ [k]).map (·.seen c) →
        g.reports ks' = g.reports (ks ++ [k]) := by
  intro past
  obtain ⟨-, rfl⟩ := init_eq_ok_iff.mp hg
  have hact : past.active = some ⟨c, (State.initial c).run c ks⟩ := run_updates rfl ks
  refine ⟨⟨_, hact, ?_, ?_, ?_, ?_⟩, fun ks' h => ?_⟩
  · rw [perform_of_active hact]
  · rw [perform_of_active hact]
  · rw [perform_of_active hact]
    rfl
  · rw [reports_of_active rfl]
    exact keepsSchedule_run hr ks k
  · rw [reports_of_active rfl, reports_of_active rfl]
    exact (reports_alike hr h).2

/-- A brake fault whose first frame the bus refuses, and then an admissible command: the second of
ten frames goes out and is recorded, the one failure stays counted, and the reports are those of a
bus that refuses the second frame instead. -/
theorem cutoff_scheduled_after_refusal :
    let c := Calibration.brake
    let g : Governor := ⟨some ⟨c, .initial c⟩⟩
    let call (command : Int32) (rejects : Bool) : Call :=
      ⟨{ command }, .scripted 0, { bus := { rejects } }⟩
    let ks := [call 1000 true]
    let k := call 0 false
    let past := g.run (ks.map .update)
    init (some c) = .ok g ∧ c.escalation = .cutoffBroadcast 10 ∧
      armings (g.reports (ks ++ [k])) = [true, false] ∧
      (∃ s, past.active = some ⟨c, s⟩ ∧ (k.outcome c s).state.cutoffRemaining.toNat = 8 ∧
        s.cutoff.map (·.failedSends) = some 1 ∧
        (k.outcome c s).state.cutoff.map (·.failedSends) = some 1) ∧
      (past.perform k).services.bus.frames = [.motorCutoff] ∧
      (past.perform k).services.bus.total.toNat = 1 ∧
      (past.perform k).services.bus.cutoffFrames.toNat = 1 ∧
      g.reports [call 1000 false, call 0 true] = g.reports (ks ++ [k]) := by
  intro c g call ks k past
  obtain ⟨⟨s, hact, -, -, hbus, hkeeps⟩, hsame⟩ := cutoff_schedule (c := c) (g := g) rfl rfl ks k
  have harmings : armings (g.reports (ks ++ [k])) = [true, false] := by decide +kernel
  rw [harmings] at hkeeps
  obtain ⟨failed, failed', hfailed, hfailed', htransmits⟩ := hkeeps.transmits
  rw [← hbus] at htransmits
  obtain ⟨hframes, htotal, hcutoff, hkept⟩ := htransmits.of_accepted (by decide) rfl
  have hone : (past.active.bind (·.state.cutoff)).map (·.failedSends) = some 1 := by
    decide +kernel
  rw [hact] at hone
  have hstill : failed = 1 := Option.some.inj (hfailed.symm.trans hone)
  refine ⟨rfl, rfl, harmings, ⟨s, hact, hkeeps.remaining_eq, hone, ?_⟩, hframes, htotal, hcutoff,
    hsame [call 1000 false, call 0 true] rfl⟩
  rw [hfailed', hkept, hstill]

end Governor
end FrontZone
