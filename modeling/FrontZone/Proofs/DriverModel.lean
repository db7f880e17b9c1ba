import FrontZone.DriverModel
import FrontZone.Proofs.Motion
/-!
# The driver in exact numbers

As long as values stay far from the ends of the word, the driver's words are read as integers: the
steering value moves by the sign of what is missing to its target, and a command is the value or,
in every other cycle, its neighbour toward zero (`nudged`). Over a run of operations counter and
toggle follow the number of steps, which are the calls that find the driver not frozen
(`InPhase.run`).
-/

namespace FrontZone

/-! ## Sums of words -/

lemma toInt_add_of_mem {a b : Int32} (h₁ : -2147483648 ≤ a.toInt + b.toInt)
    (h₂ : a.toInt + b.toInt ≤ 2147483647) : (a + b).toInt = a.toInt + b.toInt := by
  rw [Int32.toInt_add]
  exact Int.bmod_eq_of_le (by omega) (by omega)

lemma toInt_sub_of_mem {a b : Int32} (h₁ : -2147483648 ≤ a.toInt - b.toInt)
    (h₂ : a.toInt - b.toInt ≤ 2147483647) : (a - b).toInt = a.toInt - b.toInt := by
  rw [Int32.toInt_sub]
  exact Int.bmod_eq_of_le (by omega) (by omega)

/-! ## Signs and nudges -/

lemma toInt_signOf (v : Int32) : (signOf v).toInt = v.toInt.sign := by
  unfold signOf
  simp only [Int32.lt_iff_toInt_lt, Int32.toInt_zero]
  split
  · next hpos => exact (Int.sign_eq_one_of_pos hpos).symm
  · next hpos =>
    split
    · next hneg => exact (Int.sign_eq_neg_one_of_neg hneg).symm
    · next hneg =>
      rw [show v.toInt = 0 by omega]
      rfl

/-- A value, or its neighbour toward zero, up from zero itself. -/
def nudged (nudge : Bool) (v : Int) : Int :=
  if nudge then if 0 < v then v - 1 else v + 1 else v

/-- A nudge toward zero never leaves the word. -/
lemma toInt_towardZero (v : Int32) (nudge : Bool) :
    (towardZero v (if nudge then 1 else 0)).toInt = nudged nudge v.toInt := by
  have hone : (1 : Int32).toInt = 1 := rfl
  have hv := And.intro v.le_toInt v.toInt_lt
  unfold towardZero nudged
  simp only [Int32.lt_iff_toInt_lt, Int32.toInt_zero]
  cases nudge with
  | true =>
    rw [if_pos rfl, if_pos rfl]
    split
    · rw [toInt_sub_of_mem (by omega) (by omega), hone]
    · rw [toInt_add_of_mem (by omega) (by omega), hone]
  | false =>
    rw [if_neg Bool.false_ne_true, if_neg Bool.false_ne_true, Int32.sub_zero, Int32.add_zero,
      ite_self]

/-- Values nudged and not nudged differ by exactly one. -/
lemma distance_nudged (nudge : Bool) (v : Int) :
    (nudged nudge v - nudged (!nudge) v).natAbs = 1 := by
  unfold nudged
  cases nudge
  · simp only [Bool.not_false, if_true, Bool.false_eq_true, if_false]
    split <;> omega
  · simp only [Bool.not_true, if_true, Bool.false_eq_true, if_false]
    split <;> omega

/-- A nudge is of one unit at most. -/
lemma nudged_near (nudge : Bool) (v : Int) : (nudged nudge v - v).natAbs ≤ 1 := by
  unfold nudged
  split <;> [split; skip] <;> omega

/-- A nudge stays between zero and a number that is not below one. -/
lemma nudged_mem {lo hi v : Int} (nudge : Bool) (hlo : lo ≤ 0) (hhi : 1 ≤ hi) (h₁ : lo ≤ v)
    (h₂ : v ≤ hi) : lo ≤ nudged nudge v ∧ nudged nudge v ≤ hi := by
  unfold nudged
  split <;> [split; skip] <;> omega

namespace DriverModel

variable {d : DriverModel}

/-! ## The next commands -/

lemma toNat_steerCounter_add_one (hcounter : d.steerCounter.toNat < 4) :
    (d.steerCounter + 1).toNat = d.steerCounter.toNat + 1 := by
  rw [UInt32.toNat_add]
  exact Nat.mod_eq_of_lt (by simp; omega)

/-- The turn comes in the last of four phases. -/
lemma turn_iff (hcounter : d.steerCounter.toNat < 4) :
    driverSteerInterval ≤ d.steerCounter + 1 ↔ d.steerCounter.toNat = 3 := by
  rw [UInt32.le_iff_toNat_le, toNat_steerCounter_add_one hcounter,
    show driverSteerInterval.toNat = 4 from rfl]
  omega

/-- The steering value moves in every fourth cycle. -/
lemma steer_eq (hcounter : d.steerCounter.toNat < 4) :
    d.steer.steerCounter.toNat = (d.steerCounter.toNat + 1) % 4 ∧
      d.steer.steering =
        if d.steerCounter.toNat = 3 then d.steering + signOf (d.steeringTarget - d.steering)
        else d.steering := by
  have hnext := toNat_steerCounter_add_one hcounter
  unfold steer
  simp only [turn_iff hcounter]
  split
  · next h => exact ⟨by rw [h]; rfl, rfl⟩
  · next h => exact ⟨by rw [hnext]; omega, rfl⟩

/-- What a driver does that is not frozen, in a phase of the four cycles between two moves. -/
theorem next_of_running (hfrozen : d.frozen = false) (hcounter : d.steerCounter.toNat < 4) :
    d.next.1.steerCounter.toNat = (d.steerCounter.toNat + 1) % 4 ∧
      d.next.1.toggle = !d.toggle ∧
      d.next.1.steering =
        (if d.steerCounter.toNat = 3 then d.steering + signOf (d.steeringTarget - d.steering)
        else d.steering) ∧
      d.next.1.frozen = false ∧ d.next.1.steeringTarget = d.steeringTarget ∧
      d.next.1.brake = d.brake ∧
      d.next.2.steeringDeg.toInt = nudged (!d.toggle) d.next.1.steering.toInt ∧
      d.next.2.brakePct.toInt = nudged (!d.toggle) d.brake.toInt := by
  obtain ⟨hphase, hsteering⟩ := steer_eq hcounter
  have hkept : d.steer.frozen = d.frozen ∧ d.steer.steeringTarget = d.steeringTarget ∧
      d.steer.brake = d.brake ∧ d.steer.toggle = d.toggle := by
    unfold steer
    split <;> exact ⟨rfl, rfl, rfl, rfl⟩
  obtain ⟨hsame, htarget, hbrake, htoggle⟩ := hkept
  have hnext : d.next = d.steer.issue := by
    unfold next
    rw [hfrozen]
    rfl
  -- the commands are nudged by the toggle as it is after this cycle, not before
  rw [hnext]
  refine ⟨hphase, congrArg (!·) htoggle, hsteering, hsame.trans hfrozen, htarget, hbrake, ?_, ?_⟩
  · show (towardZero d.steer.steering (if !d.steer.toggle then 1 else 0)).toInt = _
    rw [toInt_towardZero, htoggle]
    rfl
  · show (towardZero d.steer.brake (if !d.steer.toggle then 1 else 0)).toInt = _
    rw [toInt_towardZero, htoggle, hbrake]

/-- One move of the steering value, where what is missing to the target fits the word. -/
lemma toInt_move {v target : Int32} (hlo : -2147483648 ≤ target.toInt - v.toInt)
    (hhi : target.toInt - v.toInt ≤ 2147483647) :
    (v + signOf (target - v)).toInt = v.toInt + (target.toInt - v.toInt).sign := by
  have hsign : (signOf (target - v)).toInt = (target.toInt - v.toInt).sign := by
    rw [toInt_signOf, toInt_sub_of_mem hlo hhi]
  have hv := And.intro v.le_toInt v.toInt_lt
  have ht := And.intro target.le_toInt target.toInt_lt
  -- the value moves between itself and the target, so it does not leave the word
  have hbetween : min v.toInt target.toInt ≤ v.toInt + (target.toInt - v.toInt).sign ∧
      v.toInt + (target.toInt - v.toInt).sign ≤ max v.toInt target.toInt := by
    rcases lt_trichotomy (target.toInt - v.toInt) 0 with hneg | hzero | hpos
    · rw [Int.sign_eq_neg_one_of_neg hneg]
      omega
    · rw [hzero, Int.sign_zero]
      omega
    · rw [Int.sign_eq_one_of_pos hpos]
      omega
  rw [toInt_add_of_mem (by omega) (by omega), hsign]

/-- A value that moves toward a target stays in a range that holds both. -/
lemma move_mem {v target : Int32} {lo hi : Int} (hlo : -1073741824 ≤ lo) (hhi : hi ≤ 1073741823)
    (hv : lo ≤ v.toInt ∧ v.toInt ≤ hi) (ht : lo ≤ target.toInt ∧ target.toInt ≤ hi) :
    (lo ≤ (v + signOf (target - v)).toInt ∧ (v + signOf (target - v)).toInt ≤ hi) ∧
      v.toInt - 1 ≤ (v + signOf (target - v)).toInt ∧
      (v + signOf (target - v)).toInt ≤ v.toInt + 1 := by
  rw [toInt_move (by omega) (by omega)]
  rcases lt_trichotomy (target.toInt - v.toInt) 0 with hneg | hzero | hpos
  · rw [Int.sign_eq_neg_one_of_neg hneg]
    omega
  · rw [hzero, Int.sign_zero]
    omega
  · rw [Int.sign_eq_one_of_pos hpos]
    omega

/-- The steering value moves in the last phase only, by one at most, and stays in a range that holds
it and its target. -/
lemma steering_next {lo hi : Int} (hfrozen : d.frozen = false) (hcounter : d.steerCounter.toNat < 4)
    (hlo : -1073741824 ≤ lo) (hhi : hi ≤ 1073741823)
    (hv : lo ≤ d.steering.toInt ∧ d.steering.toInt ≤ hi)
    (ht : lo ≤ d.steeringTarget.toInt ∧ d.steeringTarget.toInt ≤ hi) :
    (d.steerCounter.toNat ≠ 3 → d.next.1.steering.toInt = d.steering.toInt) ∧
      (d.steering.toInt - 1 ≤ d.next.1.steering.toInt ∧
        d.next.1.steering.toInt ≤ d.steering.toInt + 1) ∧
      lo ≤ d.next.1.steering.toInt ∧ d.next.1.steering.toInt ≤ hi := by
  obtain ⟨-, -, hsteering, -⟩ := next_of_running hfrozen hcounter
  have hmove := move_mem hlo hhi hv ht
  rw [hsteering]
  split
  · next hlast => exact ⟨fun hhold => absurd hlast hhold, hmove.2, hmove.1⟩
  · exact ⟨fun _ => rfl, ⟨by omega, by omega⟩, hv⟩

/-- The toggle goes with the phase. -/
lemma toggle_next (hfrozen : d.frozen = false) (hcounter : d.steerCounter.toNat < 4)
    (h : d.toggle = decide (d.steerCounter.toNat % 2 = 1)) :
    d.next.1.toggle = decide (d.next.1.steerCounter.toNat % 2 = 1) := by
  obtain ⟨hphase, htoggle, -⟩ := next_of_running hfrozen hcounter
  rw [htoggle, h, hphase, ← decide_not]
  exact decide_eq_decide.mpr (by omega)

/-! ## The last commands -/

lemma next_of_frozen (h : d.frozen = true) : d.next = (d, d.last) := by
  unfold next
  rw [h]
  rfl

lemma last_next (d : DriverModel) : d.next.1.last = d.next.2 := by
  unfold next
  split <;> rfl

/-! ## Runs -/

/-- What can be asked of a driver. -/
inductive Op where
  | setSteering (deg : Int32)
  | setBrake (pct : Int32)
  | setFrozen (frozen : Bool)
  | next
  deriving Repr, DecidableEq

/-- The driver after one operation. -/
def handle (d : DriverModel) : Op → DriverModel
  | .setSteering deg => d.setSteering deg
  | .setBrake pct => d.setBrake pct
  | .setFrozen frozen => d.setFrozen frozen
  | .next => d.next.1

/-- The driver after a run of operations. -/
def run (d : DriverModel) (ops : List Op) : DriverModel :=
  ops.foldl handle d

/-- The driver after one operation, where that is defined. -/
def handle? (d : DriverModel) : Op → Option DriverModel
  | .setSteering deg => some (d.setSteering deg)
  | .setBrake pct => some (d.setBrake pct)
  | .setFrozen frozen => some (d.setFrozen frozen)
  | .next => d.next?.map (·.1)

/-- The driver after a run of operations, where that is defined. -/
def run? (d : DriverModel) (ops : List Op) : Option DriverModel :=
  ops.foldlM handle? d

/-- Whether an operation is a step, that is a call for commands of a driver that is not frozen. -/
def isStep (d : DriverModel) (op : Op) : Bool :=
  op = .next && !d.frozen

lemma isStep_iff {op : Op} : d.isStep op ↔ op = .next ∧ d.frozen = false := by
  unfold isStep
  rw [Bool.and_eq_true, decide_eq_true_iff, Bool.not_eq_true']

/-- How many operations of a run are steps. -/
def steps : DriverModel → List Op → Nat
  | _, [] => 0
  | d, op :: ops => (if d.isStep op then 1 else 0) + steps (d.handle op) ops

/-- Counter and toggle of a driver that has made `n` steps. -/
structure InPhase (n : Nat) (d : DriverModel) : Prop where
  counter_eq : d.steerCounter.toNat = n % 4
  toggle_eq : d.toggle = decide (n % 2 = 1)

lemma inPhase_start : InPhase 0 {} :=
  ⟨rfl, rfl⟩

section InPhase
variable {n : Nat}

lemma InPhase.counter_lt (h : d.InPhase n) : d.steerCounter.toNat < 4 := by
  rw [h.counter_eq]
  exact Nat.mod_lt n (by decide)

lemma InPhase.next (h : d.InPhase n) (hfrozen : d.frozen = false) : d.next.1.InPhase (n + 1) := by
  obtain ⟨hphase, htoggle, -⟩ := next_of_running hfrozen h.counter_lt
  refine ⟨?_, ?_⟩
  · rw [hphase, h.counter_eq]
    omega
  · rw [htoggle, h.toggle_eq, ← decide_not]
    exact decide_eq_decide.mpr (by omega)

/-- Only a step turns a driver to its next phase. -/
lemma InPhase.handle (h : d.InPhase n) (op : Op) :
    (d.handle op).InPhase (n + if d.isStep op then 1 else 0) := by
  cases op with
  | setSteering deg => exact ⟨h.counter_eq, h.toggle_eq⟩
  | setBrake pct => exact ⟨h.counter_eq, h.toggle_eq⟩
  | setFrozen frozen => exact ⟨h.counter_eq, h.toggle_eq⟩
  | next =>
    cases hfrozen : d.frozen with
    | true =>
      have hsame : d.handle .next = d := congrArg Prod.fst (next_of_frozen hfrozen)
      rw [hsame, isStep, hfrozen]
      exact h
    | false =>
      rw [isStep, hfrozen]
      exact h.next hfrozen

theorem InPhase.run (h : d.InPhase n) (ops : List Op) : (d.run ops).InPhase (n + d.steps ops) := by
  induction ops generalizing d n with
  | nil => exact h
  | cons op ops ih =>
    rw [steps, ← Nat.add_assoc]
    exact ih (h.handle op)

end InPhase

end DriverModel
end FrontZone
