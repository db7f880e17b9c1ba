import FrontZone.Proofs.Motion
import Mathlib.Algebra.Order.Floor.Div
/-!
# Going somewhere by bounded steps

The ramp of a governor and the motion of a servo are the same walk: a step of bounded size toward a
place, cut off there. Steps toward one place add up to a single way (`approach_approach`), so after
any number of them only the sum counts, and the place is reached exactly once the steps are enough
for the way (`approach_steps_iff`).
-/

namespace FrontZone

/-- The place reached from `position` by a way of at most `reach` toward `target`. -/
def approach (position target reach : Int) : Int :=
  position + clampInt (-reach) reach (target - position)

section Approach
variable {position target reach reach' : Int}

lemma approach_zero (position target : Int) : approach position target 0 = position := by
  unfold approach clampInt
  split_ifs <;> omega

/-- Two ways toward the same target are one way of both lengths. -/
theorem approach_approach (h : 0 ≤ reach) (h' : 0 ≤ reach') :
    approach (approach position target reach) target reach' =
      approach position target (reach + reach') := by
  unfold approach clampInt
  split_ifs <;> omega

/-- The target is reached exactly by a way that is long enough. -/
lemma approach_eq_target_iff :
    approach position target reach = target ↔ (target - position).natAbs ≤ reach := by
  unfold approach clampInt
  split_ifs <;> omega

/-- The way goes toward the target and is cut off there. -/
lemma approach_eq_sign_mul (h : 0 ≤ reach) :
    approach position target reach =
      position + (target - position).sign * min reach (target - position).natAbs := by
  unfold approach clampInt
  rcases Int.lt_trichotomy (target - position) 0 with hneg | hzero | hpos
  · rw [Int.sign_eq_neg_one_of_neg hneg]
    split_ifs <;> omega
  · rw [hzero, Int.sign_zero]
    split_ifs <;> omega
  · rw [Int.sign_eq_one_of_pos hpos]
    split_ifs <;> omega

/-! ## Steps of one size -/

variable {step : Int}

/-- One more step. -/
lemma approach_succ (hs : 0 ≤ step) (n : Nat) :
    approach (approach position target (n * step)) target step =
      approach position target ((n + 1 : Nat) * step) := by
  rw [approach_approach (Int.mul_nonneg (Int.natCast_nonneg n) hs) hs, Int.natCast_succ,
    Int.add_mul, Int.one_mul]

/-- The target is reached exactly once the steps are as many as it takes, rounded up. -/
theorem approach_steps_iff (hs : 0 < step) (n : Nat) :
    approach position target (n * step) = target ↔
      (target - position).natAbs ⌈/⌉ step.toNat ≤ n := by
  have hnat : (step.toNat : Int) = step := Int.toNat_of_nonneg hs.le
  rw [approach_eq_target_iff, ceilDiv_le_iff_le_mul (by omega), ← Int.ofNat_le, Int.natCast_mul,
    hnat, Int.mul_comm]

end Approach

/-- One step of the ramp goes toward the safe value. -/
lemma toInt_rampToward_eq_approach (position safe : Int32) {rate : Int32} (hr : 0 ≤ rate.toInt) :
    (rampToward position safe rate).toInt = approach position.toInt safe.toInt rate.toInt := by
  rw [toInt_rampToward position safe hr]
  unfold approach clampInt
  split_ifs <;> omega

lemma natAbs_sub_eq_distance (a b : Int32) : (b.toInt - a.toInt).natAbs = distance a b := by
  unfold distance
  omega

end FrontZone
