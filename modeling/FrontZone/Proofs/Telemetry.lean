import FrontZone.Proofs.History
import FrontZone.Proofs.Simulation.Run
import Mathlib.Data.List.ReduceOption
/-!
# The pace of telemetry

Telemetry observes the report of every cycle and builds a frame exactly if one is due, which is what
a tick does with it (`tick_telemetry`). Over the history of cycles neither the count of cycles nor
the remembered mask is needed: a frame goes out if the mask is not that of the cycle before or if
the cycles without a frame, this one included, make up the interval. So what the newest frame shows
is never behind: `frames_keep_pace`.
-/

namespace FrontZone

namespace Telemetry

variable {t : Telemetry}

/-! ## Cycles -/

/-- What telemetry gets to see of a cycle. -/
abbrev Sight := ZoneReport × TelemetryContext

/-- One cycle: a frame is built exactly if one is due. -/
def cycle (t : Telemetry) (c : Sight) : Telemetry × Option TelemetryFrame :=
  let (observed, due) := t.observe c.1.faultMask
  if due then
    let (built, frame) := observed.build c.1 c.2
    (built, some frame)
  else (observed, none)

/-- Telemetry after cycles in order. -/
def run (t : Telemetry) (cs : List Sight) : Telemetry :=
  cs.foldl (fun t c => (t.cycle c).1) t

/-- What goes out in each of the cycles. -/
def sent (t : Telemetry) : List Sight → List (Option TelemetryFrame)
  | [] => []
  | c :: cs => (t.cycle c).2 :: (t.cycle c).1.sent cs

lemma run_concat (t : Telemetry) (cs : List Sight) (c : Sight) :
    t.run (cs ++ [c]) = ((t.run cs).cycle c).1 :=
  List.foldl_concat ..

lemma sent_concat (t : Telemetry) (cs : List Sight) (c : Sight) :
    t.sent (cs ++ [c]) = t.sent cs ++ [((t.run cs).cycle c).2] := by
  induction cs generalizing t with
  | nil => rfl
  | cons d cs ih => exact congrArg (List.cons _) (ih (t.cycle d).1)

/-- The fault mask of the newest cycle, zero before the first. -/
def newestMask (cs : List Sight) : UInt8 :=
  (cs.getLast?.map (·.1.faultMask)).getD 0

/-- The fault mask that the newest frame shows, zero if there is none. -/
def shownMask (sent : List (Option TelemetryFrame)) : UInt8 :=
  (sent.reduceOption.getLast?.map (·.faultMask)).getD 0

/-- How many cycles have gone without a frame since the last one, or since the start. -/
def silence (sent : List (Option TelemetryFrame)) : Nat :=
  streak Option.isNone sent

lemma newestMask_concat (cs : List Sight) (c : Sight) : newestMask (cs ++ [c]) = c.1.faultMask := by
  rw [newestMask, List.getLast?_concat]
  rfl

lemma shownMask_frame (sent : List (Option TelemetryFrame)) (frame : TelemetryFrame) :
    shownMask (sent ++ [some frame]) = frame.faultMask := by
  rw [shownMask, List.reduceOption_append, List.reduceOption_singleton]
  simp

lemma reduceOption_silent (sent : List (Option TelemetryFrame)) :
    (sent ++ [none]).reduceOption = sent.reduceOption := by
  rw [List.reduceOption_append]
  exact List.append_nil _

/-! ## Pace -/

/-- A frame is due if the mask is not that of the cycle before, or if the interval has passed. -/
def Due (interval : Nat) (cs : List Sight) (frames : List (Option TelemetryFrame)) (c : Sight) :
    Prop :=
  c.1.faultMask ≠ newestMask cs ∨ interval ≤ silence frames + 1

/-- What telemetry with an interval keeps of the cycles so far and of what went out in them. -/
structure Paces (interval : Nat) (cs : List Sight) (frames : List (Option TelemetryFrame))
    (t : Telemetry) : Prop where
  everyCycles_eq : t.everyCycles.toNat = interval
  sinceLast_eq : t.sinceLast.toNat = silence frames
  silence_lt : silence frames < interval
  lastFaultMask_eq : t.lastFaultMask = newestMask cs
  shown_eq : shownMask frames = newestMask cs
  sequence_eq : t.sequence = UInt32.ofNat frames.reduceOption.length
  numbers_eq : frames.reduceOption.map (·.sequence) =
    (List.range frames.reduceOption.length).map fun i => UInt32.ofNat (i + 1)

variable {interval : Nat} {cs : List Sight} {frames : List (Option TelemetryFrame)} {c : Sight}

lemma paces_every (everyCycles : UInt32) :
    Paces (max everyCycles.toNat 1) [] [] (every everyCycles) where
  everyCycles_eq := UInt32.toNat_max everyCycles 1
  sinceLast_eq := rfl
  silence_lt := Nat.lt_of_lt_of_le Nat.zero_lt_one (Nat.le_max_right ..)
  lastFaultMask_eq := rfl
  shown_eq := rfl
  sequence_eq := rfl
  numbers_eq := rfl

/-- The count of cycles never passes the interval, so it does not run over. -/
lemma Paces.toNat_next (h : Paces interval cs frames t) :
    (t.sinceLast + 1).toNat = silence frames + 1 := by
  have hlt := h.silence_lt
  have hmax := t.everyCycles.toNat_lt
  rw [h.everyCycles_eq] at hmax
  rw [UInt32.toNat_add, h.sinceLast_eq]
  exact Nat.mod_eq_of_lt (Nat.lt_of_le_of_lt hlt hmax)

/-- What is observed of a cycle: whether a frame is due, and from when cycles are counted on. -/
lemma Paces.observe_of_due (h : Paces interval cs frames t) (hdue : Due interval cs frames c) :
    t.observe c.1.faultMask =
      ({ t with sinceLast := 0, lastFaultMask := c.1.faultMask }, true) := by
  have hdue' : (t.everyCycles ≤ t.sinceLast + 1 || c.1.faultMask ≠ t.lastFaultMask : Bool) := by
    rw [Bool.or_eq_true, decide_eq_true_iff, decide_eq_true_iff, UInt32.le_iff_toNat_le,
      h.toNat_next, h.everyCycles_eq, h.lastFaultMask_eq]
    exact hdue.symm
  rw [observe, hdue']
  rfl

lemma Paces.observe_of_not_due (h : Paces interval cs frames t)
    (hdue : ¬ Due interval cs frames c) :
    t.observe c.1.faultMask =
      ({ t with sinceLast := t.sinceLast + 1, lastFaultMask := c.1.faultMask }, false) := by
  have hdue' : (t.everyCycles ≤ t.sinceLast + 1 || c.1.faultMask ≠ t.lastFaultMask : Bool) =
      false := by
    rw [Bool.or_eq_false_iff, decide_eq_false_iff_not, decide_eq_false_iff_not,
      UInt32.le_iff_toNat_le, h.toNat_next, h.everyCycles_eq, h.lastFaultMask_eq]
    exact (not_or.mp hdue).symm
  rw [observe, hdue']
  rfl

/-- In a cycle in which a frame is due, the frame of this cycle goes out. -/
lemma Paces.cycle_of_due (h : Paces interval cs frames t) (hdue : Due interval cs frames c) :
    ∃ frame, (t.cycle c).2 = some frame ∧ frame.faultMask = c.1.faultMask ∧
      frame.cycle = c.1.cycle ∧
      Paces interval (cs ++ [c]) (frames ++ [some frame]) (t.cycle c).1 := by
  have hsequence : t.sequence + 1 = UInt32.ofNat (frames.reduceOption.length + 1) := by
    rw [h.sequence_eq]
    exact (UInt32.ofNat_add _ 1).symm
  have hsilence (frame : TelemetryFrame) : silence (frames ++ [some frame]) = 0 := by
    rw [silence, streak_concat]
    rfl
  have hlength (frame : TelemetryFrame) :
      (frames ++ [some frame]).reduceOption.length = frames.reduceOption.length + 1 := by
    rw [List.reduceOption_append, List.length_append]
    rfl
  unfold cycle
  rw [h.observe_of_due hdue]
  -- left to show: the interval has not passed, what is shown, and how frames are numbered
  refine ⟨_, rfl, rfl, rfl, h.everyCycles_eq, (hsilence _).symm, ?_, (newestMask_concat cs c).symm,
    ?_, ?_, ?_⟩
  · rw [hsilence]
    exact Nat.zero_lt_of_lt h.silence_lt
  · rw [shownMask_frame, newestMask_concat]
  · rw [hlength]
    exact hsequence
  · rw [hlength, List.range_succ, List.map_append, ← h.numbers_eq, List.reduceOption_append,
      List.map_append]
    exact congrArg (_ ++ [·]) hsequence

/-- In a cycle in which no frame is due, the mask is still the one that was shown last. -/
lemma Paces.cycle_of_not_due (h : Paces interval cs frames t) (hdue : ¬ Due interval cs frames c) :
    (t.cycle c).2 = none ∧ Paces interval (cs ++ [c]) (frames ++ [none]) (t.cycle c).1 := by
  obtain ⟨hmask, hshort⟩ := not_or.mp hdue
  have hsilence : silence (frames ++ [none]) = silence frames + 1 := by
    rw [silence, streak_concat]
    rfl
  unfold cycle
  rw [h.observe_of_not_due hdue]
  refine ⟨rfl, h.everyCycles_eq, ?_, ?_, (newestMask_concat cs c).symm, ?_, ?_, ?_⟩
  · rw [hsilence]
    exact h.toNat_next
  · rw [hsilence]
    omega
  · -- not being due, the cycle has the mask of the one before, which the newest frame shows
    rw [newestMask_concat, shownMask, reduceOption_silent, ← shownMask, h.shown_eq]
    exact (not_not.mp hmask).symm
  · rw [reduceOption_silent]
    exact h.sequence_eq
  · rw [reduceOption_silent]
    exact h.numbers_eq

/-- Telemetry keeps its pace over any cycles. -/
theorem paces_run (everyCycles : UInt32) (cs : List Sight) :
    Paces (max everyCycles.toNat 1) cs ((every everyCycles).sent cs)
      ((every everyCycles).run cs) := by
  -- silence and the newest mask are read off the end, so the cycles are taken from there
  induction cs using List.reverseRecOn with
  | nil => exact paces_every everyCycles
  | append_singleton cs c ih =>
    rw [run_concat, sent_concat]
    by_cases hdue : Due (max everyCycles.toNat 1) cs ((every everyCycles).sent cs) c
    · obtain ⟨frame, hframe, -, -, hpaces⟩ := ih.cycle_of_due hdue
      rw [hframe]
      exact hpaces
    · obtain ⟨hnone, hpaces⟩ := ih.cycle_of_not_due hdue
      rw [hnone]
      exact hpaces

/-- What goes out in a cycle: the frame of this cycle if one is due, else nothing. -/
lemma Paces.cycle_frame (h : Paces interval cs frames t) :
    ((t.cycle c).2.isSome ↔
        c.1.faultMask ≠ newestMask cs ∨ interval ≤ silence frames + 1) ∧
      ∀ frame ∈ (t.cycle c).2, frame.cycle = c.1.cycle ∧ frame.faultMask = c.1.faultMask := by
  by_cases hdue : Due interval cs frames c
  · obtain ⟨frame, hframe, hmask, hcycle, -⟩ := h.cycle_of_due hdue
    rw [hframe]
    refine ⟨iff_of_true rfl hdue, ?_⟩
    rintro _ ⟨rfl⟩
    exact ⟨hcycle, hmask⟩
  · rw [(h.cycle_of_not_due hdue).1]
    exact ⟨iff_of_false Bool.false_ne_true hdue, fun _ h => absurd h (Option.not_mem_none _)⟩

/-- In every run of cycles, a frame goes out in the next cycle exactly if its mask is not that of
the cycle before or the interval has passed since the last frame, and it is the frame of this cycle.
So the newest frame shows the mask of the cycle, and the frames are numbered without a gap. -/
theorem frames_keep_pace (everyCycles : UInt32) (past : List Sight) (now : Sight) :
    let before := (every everyCycles).sent past
    let frames := (every everyCycles).sent (past ++ [now])
    ∃ frame?, frames = before ++ [frame?] ∧
      (frame?.isSome ↔
        now.1.faultMask ≠ newestMask past ∨ max everyCycles.toNat 1 ≤ silence before + 1) ∧
      (∀ frame ∈ frame?, frame.cycle = now.1.cycle ∧ frame.faultMask = now.1.faultMask) ∧
      shownMask frames = now.1.faultMask ∧
      frames.reduceOption.map (·.sequence) =
        (List.range frames.reduceOption.length).map fun i => UInt32.ofNat (i + 1) := by
  intro before frames
  obtain ⟨hdue, hframe⟩ := (paces_run everyCycles past).cycle_frame (c := now)
  have hpaces := paces_run everyCycles (past ++ [now])
  have hshown := hpaces.shown_eq
  rw [newestMask_concat] at hshown
  exact ⟨_, sent_concat .., hdue, hframe, hshown, hpaces.numbers_eq⟩

end Telemetry

/-! ## Ticks -/

namespace Simulation

lemma telemetry_apply (s : Simulation) (stimulus : Stimulus) :
    (s.apply stimulus).value.telemetry = s.telemetry := by
  cases stimulus with
  | emergencyStop active => cases active <;> rfl
  | _ => rfl

lemma emit_eq_cycle (s : Simulation) (report : ZoneReport) :
    s.emit report =
      ({ s with telemetry := (s.telemetry.cycle (report, s.telemetryContext)).1 },
        (s.telemetry.cycle (report, s.telemetryContext)).2) := by
  unfold emit Telemetry.cycle
  dsimp only
  split <;> rfl

/-- A tick is a cycle of telemetry on the report of the tick. -/
theorem tick_telemetry (s : Simulation) :
    ∃ report context, s.tick.value.1.lastReport = some report ∧
      (s.tick.value.1.telemetry, s.tick.value.2) = s.telemetry.cycle (report, context) := by
  have hdue : s.openCycle.value.applyDue.value.telemetry = s.telemetry := applyAll_eq _ telemetry_apply _
  rw [tick_value]
  -- of what comes before the frame, only that it leaves telemetry alone matters
  generalize s.openCycle.value.applyDue.value = due at hdue
  dsimp only
  have hcontrol : due.control.value.telemetry = s.telemetry := hdue
  rw [emit_eq_cycle, hcontrol, control_eq]
  exact ⟨_, _, rfl, rfl⟩

end Simulation
end FrontZone
