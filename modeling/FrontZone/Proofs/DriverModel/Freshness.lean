import FrontZone.Proofs.DriverModel
/-!
# Fresh commands

Command after command is nudged in turn and left as it is, so two commands on end differ wherever
the value behind them is the same (`steeringDeg_ne`, `brakePct_ne`). The brake value changes only
when it is set. The steering value has one turn in four steps, and of three steps on end at least
two that follow each other have no turn between them: so no command is given three times on end.
-/

namespace FrontZone
namespace DriverModel

variable {d : DriverModel} {n : Nat} {ops : List Op}

/-! ## Between two steps -/

/-- Whether an operation sets a target, of the steering or of the brake. -/
def Op.setsTarget : Op → Bool
  | .setSteering _ => true
  | .setBrake _ => true
  | .setFrozen _ => false
  | .next => false

/-- Setting targets leaves all else in place. -/
lemma run_of_setsTarget (h : ∀ op ∈ ops, op.setsTarget) :
    (d.run ops).frozen = d.frozen ∧ (d.run ops).steering = d.steering ∧
      (d.run ops).steerCounter = d.steerCounter ∧ (d.run ops).toggle = d.toggle := by
  induction ops generalizing d with
  | nil => exact ⟨rfl, rfl, rfl, rfl⟩
  | cons op ops ih =>
    obtain ⟨hop, hops⟩ := List.forall_mem_cons.mp h
    cases op with
    | setSteering deg => exact ih (d := d.setSteering deg) hops
    | setBrake pct => exact ih (d := d.setBrake pct) hops
    | setFrozen frozen => exact nomatch hop
    | next => exact nomatch hop

lemma InPhase.run_of_setsTarget (hd : d.InPhase n) (h : ∀ op ∈ ops, op.setsTarget) :
    (d.run ops).InPhase n := by
  obtain ⟨-, -, hcounter, htoggle⟩ := DriverModel.run_of_setsTarget (d := d) h
  exact ⟨hcounter ▸ hd.counter_eq, htoggle ▸ hd.toggle_eq⟩

/-- The brake value stays as long as it is not set. -/
lemma brake_run (h : ∀ op ∈ ops, op.setsTarget) (hset : ∀ pct, .setBrake pct ∉ ops) :
    (d.run ops).brake = d.brake := by
  induction ops generalizing d with
  | nil => rfl
  | cons op ops ih =>
    obtain ⟨hop, hops⟩ := List.forall_mem_cons.mp h
    have hset' : ∀ pct, .setBrake pct ∉ ops := fun pct hmem =>
      hset pct (List.mem_cons_of_mem op hmem)
    cases op with
    | setSteering deg => exact ih (d := d.setSteering deg) hops hset'
    | setBrake pct => exact absurd List.mem_cons_self (hset pct)
    | setFrozen frozen => exact nomatch hop
    | next => exact nomatch hop

/-! ## Two steps on end -/

section Steps
variable (hd : d.InPhase n) (hfrozen : d.frozen = false)
include hd hfrozen

/-- The driver at the next step: running, a phase further, nudging the other way, and its steering
value as the last step left it. -/
lemma second_step (h : ∀ op ∈ ops, op.setsTarget) :
    (d.next.1.run ops).frozen = false ∧ (d.next.1.run ops).InPhase (n + 1) ∧
      (d.next.1.run ops).toggle = !d.toggle ∧
      (d.next.1.run ops).steering = d.next.1.steering := by
  obtain ⟨-, hflips, -, hrunning, -⟩ := next_of_running hfrozen hd.counter_lt
  obtain ⟨hfree, hsteering, -, htoggle⟩ := run_of_setsTarget (d := d.next.1) h
  exact ⟨hfree.trans hrunning, (hd.next hfrozen).run_of_setsTarget h, htoggle.trans hflips,
    hsteering⟩

/-- Two steering commands on end differ if the second step is no turn of the steering value. -/
lemma steeringDeg_ne (h : ∀ op ∈ ops, op.setsTarget) (hturn : (n + 1) % 4 ≠ 3) :
    d.next.2.steeringDeg ≠ (d.next.1.run ops).next.2.steeringDeg := by
  obtain ⟨hfree, hphase, htoggle, hsame⟩ := second_step hd hfrozen h
  obtain ⟨-, -, -, -, -, -, hfirst, -⟩ := next_of_running hfrozen hd.counter_lt
  obtain ⟨-, -, hsteering, -, -, -, hsecond, -⟩ := next_of_running hfree hphase.counter_lt
  rw [hphase.counter_eq, if_neg hturn, hsame] at hsteering
  rw [htoggle, hsteering] at hsecond
  have hapart := distance_nudged (!d.toggle) d.next.1.steering.toInt
  intro heq
  rw [← hfirst, ← hsecond, heq] at hapart
  omega

/-- Two brake commands on end differ if the brake is not set in between. -/
lemma brakePct_ne (h : ∀ op ∈ ops, op.setsTarget) (hset : ∀ pct, .setBrake pct ∉ ops) :
    d.next.2.brakePct ≠ (d.next.1.run ops).next.2.brakePct := by
  obtain ⟨hfree, hphase, htoggle, -⟩ := second_step hd hfrozen h
  obtain ⟨-, -, -, -, -, hbrake, -, hfirst⟩ := next_of_running hfrozen hd.counter_lt
  obtain ⟨-, -, -, -, -, -, -, hsecond⟩ := next_of_running hfree hphase.counter_lt
  rw [htoggle, brake_run h hset, hbrake] at hsecond
  have hapart := distance_nudged (!d.toggle) d.brake.toInt
  intro heq
  rw [← hfirst, ← hsecond, heq] at hapart
  omega

/-- A command is within one unit of the value behind it. -/
lemma commands_near :
    distance d.next.2.steeringDeg d.next.1.steering ≤ 1 ∧
      distance d.next.2.brakePct d.next.1.brake ≤ 1 := by
  obtain ⟨-, -, -, -, -, hbrake, hsteeringDeg, hbrakePct⟩ :=
    next_of_running hfrozen hd.counter_lt
  unfold distance
  rw [hbrake, hsteeringDeg, hbrakePct]
  exact ⟨nudged_near _ _, nudged_near _ _⟩

end Steps

/-! ## Any step of any run -/

/-- After any run, a driver that is not frozen and then only asked for commands and given targets
does not give one steering command three times on end, nor one brake command twice unless the brake
is set in between, and what it gives is within one unit of its values. -/
theorem attentive_never_stale (past between later : List Op)
    (hfree : (({} : DriverModel).run past).frozen = false)
    (hbetween : ∀ op ∈ between, op.setsTarget) (hlater : ∀ op ∈ later, op.setsTarget) :
    let first := ({} : DriverModel).run past
    let second := first.next.1.run between
    let third := second.next.1.run later
    ¬ (first.next.2.steeringDeg = second.next.2.steeringDeg ∧
        second.next.2.steeringDeg = third.next.2.steeringDeg) ∧
      ((∀ pct, .setBrake pct ∉ between) → first.next.2.brakePct ≠ second.next.2.brakePct) ∧
      distance first.next.2.steeringDeg first.next.1.steering ≤ 1 ∧
      distance first.next.2.brakePct first.next.1.brake ≤ 1 := by
  intro first second third
  have hphase : first.InPhase (0 + ({} : DriverModel).steps past) := inPhase_start.run past
  obtain ⟨hfree', hphase', -⟩ := second_step hphase hfree hbetween
  refine ⟨?_, brakePct_ne hphase hfree hbetween, commands_near hphase hfree⟩
  rintro ⟨hsame, hsame'⟩
  -- at most one of the second and the third step is a turn of the steering value
  by_cases hturn : (0 + ({} : DriverModel).steps past + 1) % 4 = 3
  · exact steeringDeg_ne hphase' hfree' hlater (by omega) hsame'
  · exact steeringDeg_ne hphase hfree hbetween hturn hsame

/-- A value at minus one, released from a freeze two steps before its turn to zero: the turn repeats
the command before it, and the step after it does not. -/
theorem command_repeated_once :
    let past : List Op :=
      [.setSteering (-5)] ++ List.replicate 6 .next ++ [.setFrozen true, .next, .setFrozen false]
    let between : List Op := [.setSteering 1]
    let first := ({} : DriverModel).run past
    let second := first.next.1.run between
    let third := second.next.1
    first.frozen = false ∧ (∀ op ∈ between, op.setsTarget) ∧
      first.next.2.steeringDeg = second.next.2.steeringDeg ∧
      ¬ (first.next.2.steeringDeg = second.next.2.steeringDeg ∧
        second.next.2.steeringDeg = third.next.2.steeringDeg) := by
  intro past between first second third
  have hfree : first.frozen = false := by decide +kernel
  have hbetween : ∀ op ∈ between, op.setsTarget := by decide +kernel
  exact ⟨hfree, hbetween, by decide +kernel,
    (attentive_never_stale past between [] hfree hbetween (List.forall_mem_nil _)).1⟩

end DriverModel
end FrontZone
