import FrontZone.Proofs.DriverModel
import Mathlib.Logic.Function.Iterate
/-!
# Steering toward the target

The driver's steering value has its turn in every fourth step. The direction is the sign of a
difference that has to be a word (`InReach`): beyond, the driver keeps its value and has no commands
once the turn comes (`run?_eq`). Within reach every turn brings the target one degree nearer, which
leaves it within reach (`inReach_turned`), so that a run goes on for as long as it is asked to and
comes to the target in time. `steering_law` says all this of every driver that a run has come to.
-/

namespace FrontZone

/-- A number less its sign is one nearer to zero. -/
lemma natAbs_sub_sign (n : Int) : (n - n.sign).natAbs = n.natAbs - 1 := by
  rcases lt_trichotomy n 0 with hneg | rfl | hpos
  · rw [Int.sign_eq_neg_one_of_neg hneg]
    omega
  · rfl
  · rw [Int.sign_eq_one_of_pos hpos]
    omega

lemma eq_of_distance_eq_zero {a b : Int32} (h : distance a b = 0) : a = b :=
  Int32.toInt_inj.mp (Int.sub_eq_zero.mp (Int.natAbs_eq_zero.mp h))

namespace DriverModel

/-! ## One turn -/

/-- The steering value after its turn. -/
def turned (target v : Int32) : Int32 :=
  v + signOf (target - v)

/-- Whether the difference of a target and a value is a word. -/
def InReach (target v : Int32) : Prop :=
  -2147483648 ≤ target.toInt - v.toInt ∧ target.toInt - v.toInt ≤ 2147483647

instance (target v : Int32) : Decidable (InReach target v) :=
  inferInstanceAs (Decidable (_ ∧ _))

section Turn
variable {target v : Int32}

/-- Within reach a turn is made toward the target. -/
lemma toInt_turned (h : InReach target v) :
    (turned target v).toInt = v.toInt + (target.toInt - v.toInt).sign :=
  toInt_move h.1 h.2

/-- Within reach a turn brings the target one nearer. -/
lemma distance_turned (h : InReach target v) :
    distance target (turned target v) = distance target v - 1 := by
  unfold distance
  rw [toInt_turned h, ← Int.sub_sub, natAbs_sub_sign]

/-- A turn does not leave the reach of its target. -/
lemma inReach_turned (h : InReach target v) : InReach target (turned target v) := by
  unfold InReach
  rw [toInt_turned h, ← Int.sub_sub]
  unfold InReach at h
  rcases lt_trichotomy (target.toInt - v.toInt) 0 with hneg | hzero | hpos
  · rw [Int.sign_eq_neg_one_of_neg hneg]
    omega
  · rw [hzero]
    decide
  · rw [Int.sign_eq_one_of_pos hpos]
    omega

/-- So many turns bring the target so much nearer, and end there. -/
lemma distance_iterate (h : InReach target v) (k : Nat) :
    distance target ((turned target)^[k] v) = distance target v - k := by
  induction k generalizing v with
  | zero => rfl
  | succ k ih =>
    rw [Function.iterate_succ_apply, ih (inReach_turned h), distance_turned h]
    omega

/-- The target is reached after as many turns as it is away, and then kept. -/
lemma iterate_turned_of_le (h : InReach target v) {k : Nat} (hk : distance target v ≤ k) :
    (turned target)^[k] v = target := by
  refine (eq_of_distance_eq_zero ?_).symm
  rw [distance_iterate h]
  omega

end Turn

/-! ## Where the next commands are defined -/

section Defined
variable {d d' : DriverModel} {n : Nat}

/-- A turn beyond reach is all that keeps a driver from steering. -/
lemma steer?_eq (hcounter : d.steerCounter.toNat < 4) :
    d.steer? =
      if d.steerCounter.toNat = 3 ∧ ¬ InReach d.steeringTarget d.steering then none
      else some d.steer := by
  unfold steer? steer
  simp only [turn_iff hcounter]
  by_cases hturn : d.steerCounter.toNat = 3
  · simp only [hturn, if_true, true_and]
    by_cases hreach : InReach d.steeringTarget d.steering
    -- the difference is a word, and a degree toward the target does not leave the words
    · have hmissing : word? (d.steeringTarget.toInt - d.steering.toInt) =
          some (d.steeringTarget - d.steering) :=
        word?_eq_some_iff.mpr (toInt_sub_of_mem hreach.1 hreach.2)
      have hmoved : word? (d.steering.toInt + (signOf (d.steeringTarget - d.steering)).toInt) =
          some (turned d.steeringTarget d.steering) := by
        rw [word?_eq_some_iff, toInt_turned hreach, toInt_signOf,
          toInt_sub_of_mem hreach.1 hreach.2]
      rw [hmissing, if_neg (not_not.mpr hreach)]
      show (word? _).bind _ = _
      rw [hmoved]
      rfl
    · have hmissing : word? (d.steeringTarget.toInt - d.steering.toInt) = none := if_neg hreach
      rw [hmissing, if_pos hreach]
      rfl
  · rw [if_neg hturn, if_neg hturn, if_neg fun h => hturn h.1]

lemma next?_eq (hcounter : d.steerCounter.toNat < 4) :
    d.next? =
      if d.frozen = false ∧ d.steerCounter.toNat = 3 ∧ ¬ InReach d.steeringTarget d.steering then
        none
      else some d.next := by
  unfold next? next
  cases d.frozen with
  | true => rfl
  | false =>
    show d.steer?.map issue = if false = false ∧ _ then none else some d.steer.issue
    rw [steer?_eq hcounter]
    simp only [true_and]
    split <;> rfl

/-- Whether an operation is the fourth of four steps, after `n` steps. -/
def IsFourth (d : DriverModel) (n : Nat) (op : Op) : Prop :=
  d.isStep op ∧ n % 4 = 3

instance (op : Op) : Decidable (d.IsFourth n op) :=
  inferInstanceAs (Decidable (_ ∧ _))

/-- Only the fourth of four steps can fail. -/
lemma handle?_eq (h : d.InPhase n) (op : Op) :
    d.handle? op =
      if d.IsFourth n op ∧ ¬ InReach d.steeringTarget d.steering then none
      else some (d.handle op) := by
  by_cases hfar : d.IsFourth n op ∧ ¬ InReach d.steeringTarget d.steering
  · obtain ⟨⟨hstep, hphase⟩, hreach⟩ := hfar
    obtain ⟨rfl, hfrozen⟩ := isStep_iff.mp hstep
    rw [if_pos ⟨⟨hstep, hphase⟩, hreach⟩]
    show d.next?.map _ = _
    rw [next?_eq h.counter_lt, if_pos ⟨hfrozen, h.counter_eq.trans hphase, hreach⟩]
    rfl
  · rw [if_neg hfar]
    cases op with
    | next =>
      show d.next?.map _ = _
      rw [next?_eq h.counter_lt, if_neg]
      · rfl
      · rintro ⟨hfrozen, hcounter, hreach⟩
        exact hfar ⟨⟨isStep_iff.mpr ⟨rfl, hfrozen⟩, h.counter_eq.symm.trans hcounter⟩, hreach⟩
    | _ => rfl

lemma handle?_eq_none_iff (h : d.InPhase n) (op : Op) :
    d.handle? op = none ↔ d.IsFourth n op ∧ ¬ InReach d.steeringTarget d.steering := by
  rw [handle?_eq h]
  split
  · next hfar => exact iff_of_true rfl hfar
  · next hnear => exact iff_of_false nofun hnear

/-- Only the fourth of four steps moves the steering value. -/
lemma steering_handle (h : d.InPhase n) (op : Op) :
    (d.handle op).steering =
      if d.IsFourth n op then turned d.steeringTarget d.steering else d.steering := by
  by_cases hfourth : d.IsFourth n op
  · obtain ⟨rfl, hfrozen⟩ := isStep_iff.mp hfourth.1
    have hnext := (next_of_running hfrozen h.counter_lt).2.2.1
    rw [if_pos (h.counter_eq.trans hfourth.2)] at hnext
    rw [if_pos hfourth]
    exact hnext
  · rw [if_neg hfourth]
    cases op with
    | next =>
      cases hfrozen : d.frozen with
      | true => exact congrArg (·.1.steering) (next_of_frozen hfrozen)
      | false =>
        have hnext := (next_of_running hfrozen h.counter_lt).2.2.1
        rw [if_neg fun hcounter => hfourth
          ⟨isStep_iff.mpr ⟨rfl, hfrozen⟩, h.counter_eq.symm.trans hcounter⟩] at hnext
        exact hnext
    | _ => rfl

/-- Where it is defined it moves by one degree toward the target. -/
lemma steering_of_handle? (h : d.InPhase n) {op : Op} (hop : d.handle? op = some d') :
    (d.IsFourth n op → d'.steering.toInt =
        d.steering.toInt + (d.steeringTarget.toInt - d.steering.toInt).sign) ∧
      (¬ d.IsFourth n op → d'.steering = d.steering) := by
  rw [handle?_eq h] at hop
  split at hop
  · exact nomatch hop
  · next hnear =>
    obtain rfl := Option.some.inj hop
    rw [steering_handle h]
    refine ⟨fun hfourth => ?_, fun hfourth => if_neg hfourth⟩
    rw [if_pos hfourth]
    exact toInt_turned (not_not.mp fun hfar => hnear ⟨hfourth, hfar⟩)

lemma steeringTarget_handle {op : Op} (h : ∀ deg, .setSteering deg = op → deg = d.steeringTarget) :
    (d.handle op).steeringTarget = d.steeringTarget := by
  cases op with
  | setSteering deg => exact h deg rfl
  | setBrake pct => rfl
  | setFrozen frozen => rfl
  | next =>
    show d.next.1.steeringTarget = _
    unfold next steer
    split
    · rfl
    · split <;> rfl

end Defined

/-! ## Runs -/

section Run
variable {d d' : DriverModel} {n : Nat} {ops : List Op}

/-- Whether a run leaves the target as it is. -/
def KeepsTarget (d : DriverModel) (ops : List Op) : Prop :=
  ∀ deg, .setSteering deg ∈ ops → deg = d.steeringTarget

lemma KeepsTarget.head {op : Op} (h : d.KeepsTarget (op :: ops)) :
    (d.handle op).steeringTarget = d.steeringTarget :=
  steeringTarget_handle fun deg hop => h deg (hop ▸ List.mem_cons_self)

lemma KeepsTarget.tail {op : Op} (h : d.KeepsTarget (op :: ops)) :
    (d.handle op).KeepsTarget ops := fun deg hmem =>
  (h deg (List.mem_cons_of_mem op hmem)).trans h.head.symm

/-- Where a run is defined, it goes where words that wrap around go. -/
lemma run_of_run? (h : d.run? ops = some d') (hd : d.InPhase n) : d' = d.run ops := by
  induction ops generalizing d n with
  | nil => exact (Option.some.inj h).symm
  | cons op ops ih =>
    obtain ⟨d₁, hop, hops⟩ := Option.bind_eq_some_iff.mp h
    rw [handle?_eq hd] at hop
    split at hop
    · exact nomatch hop
    · obtain rfl := Option.some.inj hop
      exact ih hops (hd.handle op)

/-- A run that leaves the target as it is goes on for as long as it is asked to if that is within
reach, and until the next turn comes if it is not. -/
theorem run?_eq (h : d.InPhase n) (ops : List Op) (hkeep : d.KeepsTarget ops) :
    d.run? ops =
      if InReach d.steeringTarget d.steering ∨ n % 4 + d.steps ops < 4 then some (d.run ops)
      else none := by
  induction ops generalizing d n with
  | nil => exact (if_pos (Or.inr (Nat.mod_lt n (by decide)))).symm
  | cons op ops ih =>
    have hrest := ih (h.handle op) hkeep.tail
    rw [hkeep.head, steering_handle h] at hrest
    show (d.handle? op).bind _ = _
    rw [handle?_eq h, steps]
    by_cases hfourth : d.IsFourth n op
    · rw [if_pos hfourth] at hrest
      by_cases hreach : InReach d.steeringTarget d.steering
      · rw [if_pos (Or.inl (inReach_turned hreach))] at hrest
        rw [if_neg fun hfar => hfar.2 hreach, if_pos (Or.inl hreach)]
        exact hrest
      · have hlate : ¬ n % 4 + ((if d.isStep op then 1 else 0) + (d.handle op).steps ops) < 4 := by
          rw [if_pos hfourth.1, hfourth.2]
          omega
        rw [if_pos ⟨hfourth, hreach⟩, if_neg fun hc => hc.elim hreach hlate]
        rfl
    · -- without a turn neither value nor reach changes, and a step uses up one of those left
      rw [if_neg hfourth] at hrest
      have hphase : (n + if d.isStep op then 1 else 0) % 4 + (d.handle op).steps ops =
          n % 4 + ((if d.isStep op then 1 else 0) + (d.handle op).steps ops) := by
        by_cases hstep : d.isStep op
        · have hn : n % 4 ≠ 3 := fun hn => hfourth ⟨hstep, hn⟩
          rw [if_pos hstep]
          omega
        · rw [if_neg hstep]
          omega
      rw [hphase] at hrest
      rw [if_neg fun hfar => hfourth hfar.1]
      exact hrest

/-- In a run that leaves the target as it is, the steering value has its turn in every fourth
step. -/
theorem steering_run (h : d.InPhase n) (ops : List Op) (hkeep : d.KeepsTarget ops) :
    (d.run ops).steering =
      (turned d.steeringTarget)^[(n % 4 + d.steps ops) / 4] d.steering := by
  induction ops generalizing d n with
  | nil =>
    rw [steps, Nat.div_eq_of_lt (by omega)]
    rfl
  | cons op ops ih =>
    show ((d.handle op).run ops).steering = _
    rw [ih (h.handle op) hkeep.tail, hkeep.head, steering_handle h, steps]
    by_cases hfourth : d.IsFourth n op
    · have hn : n % 4 = 3 := hfourth.2
      rw [if_pos hfourth, if_pos hfourth.1, ← Function.iterate_succ_apply]
      congr 2
      omega
    · rw [if_neg hfourth]
      by_cases hstep : d.isStep op
      · rw [if_pos hstep]
        congr 2
        have hn : n % 4 ≠ 3 := fun hn => hfourth ⟨hstep, hn⟩
        omega
      · rw [if_neg hstep, Nat.zero_add, Nat.add_zero]

/-- A driver that a run has come to is in the phase of its steps. -/
lemma inPhase_of_run? (h : ({} : DriverModel).run? ops = some d) :
    d.InPhase (({} : DriverModel).steps ops) := by
  have hphase := inPhase_start.run ops
  rw [Nat.zero_add] at hphase
  exact run_of_run? h inPhase_start ▸ hphase

lemma isSome_run?_iff (h : d.InPhase n) (hkeep : d.KeepsTarget ops) :
    (d.run? ops).isSome ↔
      InReach d.steeringTarget d.steering ∨ n % 4 + d.steps ops < 4 := by
  rw [run?_eq h ops hkeep]
  split
  · next hdefined => exact iff_of_true rfl hdefined
  · next hdefined => exact iff_of_false nofun hdefined

/-- A run that leaves the target as it is does not lead away from it. -/
lemma distance_run? (h : d.InPhase n) (hkeep : d.KeepsTarget ops) (hrun : d.run? ops = some d') :
    distance d.steeringTarget d'.steering ≤ distance d.steeringTarget d.steering := by
  have hdefined := (isSome_run?_iff h hkeep).mp (Option.isSome_iff_exists.mpr ⟨d', hrun⟩)
  rw [run_of_run? hrun h, steering_run h ops hkeep]
  rcases hdefined with hreach | hshort
  · rw [distance_iterate hreach]
    exact Nat.sub_le _ _
  · rw [Nat.div_eq_of_lt hshort]
    exact Nat.le_refl _

/-- A target within reach is there after four steps for each degree. -/
lemma run?_reaches (h : d.InPhase n) (hkeep : d.KeepsTarget ops)
    (hreach : InReach d.steeringTarget d.steering)
    (hlong : 4 * distance d.steeringTarget d.steering ≤ d.steps ops) :
    ∃ d', d.run? ops = some d' ∧ d'.steering = d.steeringTarget := by
  refine ⟨d.run ops, ?_, ?_⟩
  · rw [run?_eq h ops hkeep, if_pos (Or.inl hreach)]
  · rw [steering_run h ops hkeep]
    exact iterate_turned_of_le hreach (by omega)

/-- Of a driver that a run has come to: an operation fails exactly if it is a fourth step and the
target is not within reach; else a fourth step moves the steering value one degree toward the target
and no other moves it. As long as the target is kept, a run goes on without end exactly if that is
within reach, is never farther from it than now, and is there after four steps for each degree. -/
theorem steering_law (hd : ({} : DriverModel).run? ops = some d) :
    let n := ({} : DriverModel).steps ops
    let reach := InReach d.steeringTarget d.steering
    let missing := d.steeringTarget.toInt - d.steering.toInt
    (∀ op, d.handle? op = none ↔ d.IsFourth n op ∧ ¬ reach) ∧
      (∀ op d', d.handle? op = some d' →
        (d.IsFourth n op → d'.steering.toInt = d.steering.toInt + missing.sign) ∧
          (¬ d.IsFourth n op → d'.steering = d.steering)) ∧
      ∀ later, d.KeepsTarget later →
        ((d.run? later).isSome ↔ reach ∨ n % 4 + d.steps later < 4) ∧
          (∀ d', d.run? later = some d' →
            distance d.steeringTarget d'.steering ≤ distance d.steeringTarget d.steering) ∧
          (reach → 4 * distance d.steeringTarget d.steering ≤ d.steps later →
            ∃ d', d.run? later = some d' ∧ d'.steering = d.steeringTarget) := by
  intro n reach missing
  have hphase : d.InPhase n := inPhase_of_run? hd
  exact ⟨handle?_eq_none_iff hphase, fun op d' hop => steering_of_handle? hphase hop,
    fun later hkeep => ⟨isSome_run?_iff hphase hkeep,
      fun d' hlater => distance_run? hphase hkeep hlater, run?_reaches hphase hkeep⟩⟩

/-- A value at zero with a target of two, frozen for a while, is there after eight steps. -/
theorem target_reached_despite_freeze :
    let d := ({} : DriverModel).setSteering 2
    let later : List Op :=
      List.replicate 3 .next ++ [.setFrozen true, .next, .setFrozen false] ++ List.replicate 5 .next
    ({} : DriverModel).run? [.setSteering 2] = some d ∧ d.KeepsTarget later ∧
      InReach d.steeringTarget d.steering ∧
      4 * distance d.steeringTarget d.steering ≤ d.steps later ∧
      ∃ d', d.run? later = some d' ∧ d'.steering = d.steeringTarget := by
  intro d later
  have hd : ({} : DriverModel).run? [.setSteering 2] = some d := rfl
  have hkeep : d.KeepsTarget later := by simp [KeepsTarget, later]
  have hreach : InReach d.steeringTarget d.steering := by decide
  have hlong : 4 * distance d.steeringTarget d.steering ≤ d.steps later := by decide +kernel
  obtain ⟨-, -, hlater⟩ := steering_law hd
  exact ⟨hd, hkeep, hreach, hlong, (hlater later hkeep).2.2 hreach hlong⟩

/-- A value at minus one, with the greatest word for a target, has no fourth step; where words wrap
around, the step turns to minus two. -/
theorem far_target_turned_from :
    let ops : List Op :=
      [.setSteering (-1)] ++ List.replicate 4 .next ++ [.setSteering 2147483647] ++
        List.replicate 3 .next
    let d := ({} : DriverModel).run ops
    ({} : DriverModel).run? ops = some d ∧
      d.IsFourth (({} : DriverModel).steps ops) .next ∧
      d.steering.toInt = -1 ∧ d.steeringTarget.toInt = 2147483647 ∧
      (d.handle? .next).map (·.steering) ≠ some 0 ∧
      d.handle? .next = none ∧ (d.handle .next).steering = -2 := by
  decide +kernel

end Run

end DriverModel
end FrontZone
