import FrontZone.Proofs.Zone.Run
/-!
# Independence of the actuators

What one actuator does depends on nothing that belongs to the other or to the services alone. The
only thing that comes back from the services is whether the bus accepts a frame, and a governor
does not use it but to count the frames refused (`own_cycle`). So the cycles of an actuator can be
played back from what reaches its governor, on a bus that accepts everything (`describes_replay`),
and two runs in which the same reaches it are described by the same outputs.
-/

namespace FrontZone
namespace Governor

/-! ## The answer of the bus -/

/-- A broadcast without its count of refused frames. -/
def uncounted (n : Cutoff) : Cutoff :=
  { n with failedSends := 0 }

/-- A state without the count of refused frames. -/
def State.uncounted (s : State) : State :=
  { s with cutoff := s.cutoff.map Governor.uncounted }

/-- What a cycle means to its own actuator: the report, the disable lines to write and, but for the
count of refused frames, the state. -/
def Outcome.own (o : Outcome) : CycleReport × List (DisableLine × Bool) × State :=
  (o.report, o.lineWrites, o.state.uncounted)

section Bus
variable (c : Calibration) (s : State) (accepts : Bool)

/-- A frame is due or not, whatever the bus does with it. -/
lemma tick_uncounted (n : Cutoff) :
    Governor.uncounted (n.tick accepts).1 =
        Governor.uncounted ((Governor.uncounted n).tick true).1 ∧
      ((n.tick accepts).2 = .idle ↔ ((Governor.uncounted n).tick true).2 = .idle) := by
  have hsending : (Governor.uncounted n).isSending = n.isSending := rfl
  unfold Cutoff.tick
  rw [hsending]
  cases n.isSending with
  | false => exact ⟨rfl, Iff.rfl⟩
  | true =>
    cases accepts
    · exact ⟨rfl, iff_of_false nofun nofun⟩
    · exact ⟨rfl, Iff.rfl⟩

lemma tickCutoff_uncounted :
    (s.tickCutoff accepts).1.map Governor.uncounted =
        (s.uncounted.tickCutoff true).1.map Governor.uncounted ∧
      ((s.tickCutoff accepts).2 = .idle ↔ (s.uncounted.tickCutoff true).2 = .idle) := by
  unfold State.tickCutoff State.uncounted
  cases s.cutoff with
  | none => exact ⟨rfl, Iff.rfl⟩
  | some n =>
    obtain ⟨hnext, hidle⟩ := tick_uncounted accepts n
    exact ⟨congrArg some hnext, hidle⟩

/-- Whether a frame is accepted shows in the count of refused frames only. -/
lemma own_finish (transition : LatchTransition) (override : Bool)
    (events events' : List (Dtc × EventStatus)) (notes notes' : List LogEntry) :
    (finish c s transition override accepts events notes).own =
      (finish c s.uncounted transition override true events' notes').own := by
  obtain ⟨hnext, hidle⟩ := tickCutoff_uncounted s accepts
  have hrunning : (s.cutoff.map Governor.uncounted).isSome = s.cutoff.isSome := Option.isSome_map
  have hfault : s.uncounted.fault = s.fault := rfl
  have hlines : wantedLines c s.uncounted = wantedLines c s := rfl
  unfold Outcome.own finish State.uncounted
  dsimp only
  rw [hnext, ← State.uncounted]
  simp only [ne_eq, hidle, hrunning, hfault, hlines]

/-- What a cycle means to its own actuator depends neither on the bus nor on how many frames it has
refused. -/
theorem own_cycle (inputs : CycleInputs) (reading : Option Int32) :
    (cycle c s inputs reading accepts).own = (cycle c s.uncounted inputs reading true).own := by
  unfold cycle
  split
  -- under an override the state is set before the bus is asked
  · exact own_finish c { s with position := c.safeValue } accepts .none true [] [] [] []
  · have hfindings :
        examine c s.uncounted inputs.command reading = examine c s inputs.command reading := rfl
    have hnext (f : Findings) : governedState c s.uncounted f =
        ((governedState c s f).1.uncounted, (governedState c s f).2) := by
      have harm (arms : Bool) :
          (if arms then (s.cutoff.map Governor.uncounted).map Cutoff.arm
            else s.cutoff.map Governor.uncounted) =
          (if arms then s.cutoff.map Cutoff.arm else s.cutoff).map Governor.uncounted := by
        cases arms <;> cases s.cutoff <;> rfl
      unfold governedState State.uncounted
      dsimp only
      rw [harm]
    unfold governedCycle
    dsimp only
    rw [hfindings, hnext]
    exact own_finish ..

end Bus

/-! ## What reaches a governor -/

/-- Something that reaches a governor: a cycle, with what its sensor gives if it is read, or a
restart. -/
inductive Contact where
  | cycle (inputs : CycleInputs) (reading : Option Int32)
  | reinit (calibration : Option Calibration)
  deriving DecidableEq

/-- What the sensor gives in an update, nothing where it is not read. -/
def reading (g : Governor) (k : Call) : Option Int32 :=
  g.active.bind fun active => k.reading active.calibration

/-- What can be seen of a cycle at its actuator. -/
structure Output where
  /-- Absent if the governor does not run. -/
  report : Option CycleReport
  /-- The writes of disable lines, in order. -/
  lineWrites : List (DisableLine × Bool)
  /-- The write of the drive signal, if there is one. -/
  duty : Option UInt16
  deriving Repr, DecidableEq

/-- The hardware with what an output writes to it. -/
def Output.onRig (o : Output) (rig : Rig) : Rig :=
  match o.duty with
  | some duty => (rig.writeLines o.lineWrites).writeDuty duty
  | none => rig.writeLines o.lineWrites

/-- What can be seen of a cycle on a bus that accepts everything, and the governor after it. -/
def answer (g : Governor) (inputs : CycleInputs) (reading : Option Int32) : Output × Governor :=
  match g.active with
  | none => (⟨none, [], none⟩, g)
  | some ⟨c, s⟩ =>
    let o := Governor.cycle c s inputs reading true
    (⟨some o.report, o.lineWrites, some o.report.duty⟩, ⟨some ⟨c, o.state⟩⟩)

/-- What can be seen of the cycles of a governor, on a bus that accepts everything. -/
def replay : Governor → List Contact → List Output
  | _, [] => []
  | g, .cycle inputs reading :: xs =>
    (g.answer inputs reading).1 :: replay (g.answer inputs reading).2 xs
  | g, .reinit calibration :: xs => replay (g.reinit calibration).1 xs

/-- Two governors that differ at most in the count of refused frames. -/
def Agree (g g' : Governor) : Prop :=
  g.active.map (fun x => (x.calibration, x.state.uncounted)) =
    g'.active.map (fun x => (x.calibration, x.state.uncounted))

variable {g g' : Governor}

lemma Agree.refl (g : Governor) : Agree g g := rfl

lemma Agree.reinit (h : Agree g g') (calibration : Option Calibration) :
    Agree (g.reinit calibration).1 (g'.reinit calibration).1 := by
  unfold Governor.reinit
  cases init calibration with
  | ok fresh => exact Agree.refl fresh
  | error e => exact h

/-- Of two agreeing governors both run or neither does, on the same calibration. -/
lemma Agree.of_active {c : Calibration} {s : State} (h : Agree g g')
    (hactive : g.active = some ⟨c, s⟩) :
    ∃ s', g'.active = some ⟨c, s'⟩ ∧ s'.uncounted = s.uncounted := by
  rw [Agree, hactive, Option.map_some] at h
  obtain ⟨⟨c', s'⟩, hactive', hsame⟩ := Option.map_eq_some_iff.mp h.symm
  obtain ⟨rfl, hstate⟩ : c' = c ∧ s'.uncounted = s.uncounted := Prod.mk.inj hsame
  exact ⟨s', hactive', hstate⟩

lemma Agree.of_inactive (h : Agree g g') (hactive : g.active = none) : g'.active = none := by
  rw [Agree, hactive, Option.map_none] at h
  exact Option.map_eq_none_iff.mp h.symm

/-- What a cycle writes, seen from what it means to its own actuator. -/
lemma onRig_of_own {o o' : Outcome} (h : o.own = o'.own) (rig : Rig) :
    o.onRig rig = Output.onRig ⟨some o'.report, o'.lineWrites, some o'.report.duty⟩ rig := by
  obtain ⟨hreport, hrest⟩ := Prod.mk.inj h
  obtain ⟨hwrites, -⟩ := Prod.mk.inj hrest
  unfold Outcome.onRig Output.onRig
  rw [hreport, hwrites]

/-- An update shows, whatever the services, what an agreeing governor answers, and they agree again.
-/
lemma Agree.perform (h : Agree g g') (k : Call) :
    let u := g.perform k
    let o := g'.answer k.inputs (g.reading k)
    u.report.toOption = o.1.report ∧
      (u.rig = o.1.onRig k.rig ∨ u.rig = o.1.onRig k.rig.read.1) ∧ Agree u.governor o.2 := by
  dsimp only
  cases hactive : g.active with
  | none =>
    rw [perform_of_inactive hactive, answer, h.of_inactive hactive]
    exact ⟨rfl, Or.inl rfl, h⟩
  | some active =>
    obtain ⟨c, s⟩ := active
    obtain ⟨s', hactive', hstate⟩ := h.of_active hactive
    have hreading : g.reading k = k.reading c := by
      rw [reading, hactive]
      rfl
    have hown : (k.outcome c s).own = (Governor.cycle c s' k.inputs (k.reading c) true).own := by
      rw [Call.outcome, own_cycle, own_cycle c s', hstate]
    have hreport := congrArg Prod.fst hown
    have hnext := congrArg (·.2.2) hown
    rw [perform_of_active hactive, answer, hactive', hreading]
    refine ⟨congrArg some hreport, ?_, congrArg (fun state => some (c, state)) hnext⟩
    dsimp only
    rw [onRig_of_own hown]
    -- the sensor is read before the writes, or not at all
    unfold sense
    split
    · exact Or.inr rfl
    · exact Or.inl rfl

end Governor

namespace Zone

open Governor (Contact Output)

/-! ## Runs seen from one actuator -/

/-- What a request brings to an actuator's governor. -/
def contact (a : Actuator) (z : Zone) : Request → Option Contact
  | .step k =>
    some (.cycle (z.inputs (k.commands.actuator a)) ((z.governor a).reading (z.call k a)))
  | .reinit b calibration => if b = a then some (.reinit calibration) else none
  | _ => none

/-- What reaches an actuator's governor in a run, oldest first. -/
def contacts (a : Actuator) : Zone → List Request → List Contact
  | _, [] => []
  | z, r :: rs => (z.contact a r).toList ++ contacts a (z.handle r) rs

/-- The cycles of a run with what they were called with, oldest first. -/
def steps : Zone → List Request → List (Call × Step)
  | _, [] => []
  | z, .step k :: rs => (k, z.perform k) :: steps (z.handle (.step k)) rs
  | z, r :: rs => steps (z.handle r) rs

/-- An output describes a cycle at an actuator: the report is the actuator's, and to its hardware
happened what the output writes and at most a read of the sensor before. -/
structure Describes (a : Actuator) (x : Call × Step) (o : Output) : Prop where
  report_eq : x.2.report.actuator a = o.report
  rig_eq : x.2.rig a = o.onRig (x.1.rig a) ∨ x.2.rig a = o.onRig (x.1.rig a).read.1

variable {a : Actuator} {z z' : Zone} {g : Governor}

/-- A cycle is described by the answer of an agreeing governor. -/
lemma describes_step (h : Governor.Agree (z.governor a) g) (k : Call) :
    let o := g.answer (z.inputs (k.commands.actuator a)) ((z.governor a).reading (z.call k a))
    Describes a (k, z.perform k) o.1 ∧ Governor.Agree ((z.perform k).zone.governor a) o.2 := by
  intro o
  obtain ⟨hinputs, hrig⟩ := z.call_eq k a
  obtain ⟨hzone, hstep, hreport⟩ := z.perform_actuator k a
  obtain ⟨hshown, hwritten, hagree⟩ := h.perform (z.call k a)
  rw [hinputs, hrig] at hwritten
  rw [hinputs] at hshown hagree
  refine ⟨⟨hreport.trans hshown, ?_⟩, hzone ▸ hagree⟩
  show (z.perform k).rig a = _ ∨ (z.perform k).rig a = _
  rw [hstep]
  exact hwritten

/-- The cycles of a run are described by what an agreeing governor shows when the same reaches it.
-/
theorem describes_replay (h : Governor.Agree (z.governor a) g) (rs : List Request) :
    List.Forall₂ (Describes a) (z.steps rs) (g.replay (contacts a z rs)) := by
  induction rs generalizing z g with
  | nil => exact List.Forall₂.nil
  | cons r rs ih =>
    have hgovernor := z.governor_handle a r
    cases r with
    | step k =>
      obtain ⟨hdescribes, hagree⟩ := describes_step h k
      exact List.Forall₂.cons hdescribes (ih hagree)
    | reinit b calibration =>
      show List.Forall₂ (Describes a) (steps (z.handle _) rs)
        (g.replay ((if b = a then some (.reinit calibration) else none).toList ++ _))
      dsimp only at hgovernor
      by_cases hown : b = a
      · rw [if_pos hown] at hgovernor ⊢
        exact ih (hgovernor ▸ h.reinit calibration)
      · rw [if_neg hown] at hgovernor ⊢
        exact ih (hgovernor ▸ h)
    | _ => exact ih (hgovernor ▸ h)

/-- Two runs in which the same commands, snapshots, readings and restarts reach an actuator's
governor, from the same calibration of the actuator, are described by the same outputs, whatever
happens to the other actuator, to the bits of other monitors and to the services. -/
theorem actuators_independent {zc zc' : ZoneCalibration} (h : ofCalibration zc = .ok z)
    (h' : ofCalibration zc' = .ok z') (a : Actuator) (hcalibration : zc'.actuator a = zc.actuator a)
    {rs rs' : List Request} (hcontacts : contacts a z' rs' = contacts a z rs) :
    ∃ outputs, List.Forall₂ (Describes a) (z.steps rs) outputs ∧
      List.Forall₂ (Describes a) (z'.steps rs') outputs := by
  have hgovernor : z'.governor a = z.governor a := by
    obtain ⟨-, rfl⟩ := ofCalibration_eq_ok_iff.mp h
    obtain ⟨-, rfl⟩ := ofCalibration_eq_ok_iff.mp h'
    cases a with
    | steering =>
      show (⟨some ⟨zc'.steering, .initial zc'.steering⟩⟩ : Governor) = _
      rw [show zc'.steering = zc.steering from hcalibration]
      rfl
    | brake =>
      show (⟨some ⟨zc'.brake, .initial zc'.brake⟩⟩ : Governor) = _
      rw [show zc'.brake = zc.brake from hcalibration]
      rfl
  refine ⟨(z.governor a).replay (contacts a z rs), describes_replay (Governor.Agree.refl _) rs, ?_⟩
  rw [← hcontacts]
  exact describes_replay (hgovernor ▸ Governor.Agree.refl _) rs'

/-- Two zones with different brakes. In the second run the brake is taken away after the first
cycle, another monitor reports a fault, and the bus refuses frames; steering sees nothing of it. -/
theorem steering_unmoved_by_brake :
    let zc : ZoneCalibration := {}
    let zc' : ZoneCalibration := { brake := { Calibration.brake with plausibilityThreshold := 9 } }
    let k : Call := ⟨⟨3, 0⟩, fun _ => .scripted 1, {}⟩
    let k' : Call :=
      ⟨⟨3, 80⟩, fun a => if a = .steering then .scripted 1 else .scripted 50,
        ⟨{}, { rejects := true }⟩⟩
    let rs : List Request := [.step k, .step k]
    let rs' : List Request := [.setExternalFault 16 true, .step k', .reinit .brake none, .step k']
    ∃ z z' outputs, ofCalibration zc = .ok z ∧ ofCalibration zc' = .ok z' ∧
      contacts .steering z' rs' = contacts .steering z rs ∧
      List.Forall₂ (Describes .steering) (z.steps rs) outputs ∧
      List.Forall₂ (Describes .steering) (z'.steps rs') outputs := by
  intro zc zc' k k' rs rs'
  have hstart : ∃ z z', ofCalibration zc = .ok z ∧ ofCalibration zc' = .ok z' ∧
      contacts .steering z' rs' = contacts .steering z rs :=
    ⟨_, _, rfl, rfl, by decide +kernel⟩
  obtain ⟨z, z', hz, hz', hcontacts⟩ := hstart
  obtain ⟨outputs, hleft, hright⟩ := actuators_independent hz hz' .steering rfl hcontacts
  exact ⟨z, z', outputs, hz, hz', hcontacts, hleft, hright⟩

end Zone
end FrontZone
