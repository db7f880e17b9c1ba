import FrontZone.Machine
import FrontZone.Proofs.Motion
/-!
# When machine arithmetic is exact

Each operation gives the exact result where that fits, and the bounds by which it fits are those of
the words that went in: sums and differences of narrow words are narrow, a product of two of them
has at most 62 bits, and a quotient is no larger than its dividend.
-/

namespace FrontZone

namespace Machine

@[simp]
lemma ok_bind {α β : Type} (a : α) (f : α → Checked β) : (Except.ok a >>= f) = f a := rfl

/-! ## Wide numbers -/

lemma wide_of_natAbs {n : Int} (h : n.natAbs < 9223372036854775808) : wide n = .ok n :=
  if_pos (by omega)

lemma add_of_natAbs {a b : Int} (h : a.natAbs + b.natAbs < 9223372036854775808) :
    add a b = .ok (a + b) :=
  wide_of_natAbs (by omega)

lemma sub_of_natAbs {a b : Int} (h : a.natAbs + b.natAbs < 9223372036854775808) :
    sub a b = .ok (a - b) :=
  wide_of_natAbs (by omega)

lemma neg_of_natAbs {a : Int} (h : a.natAbs < 9223372036854775808) : neg a = .ok (-a) :=
  wide_of_natAbs (by omega)

/-- A quotient is no larger than its dividend. -/
lemma natAbs_tdiv_le (a b : Int) : (a.tdiv b).natAbs ≤ a.natAbs := by
  rw [Int.natAbs_tdiv]
  exact Nat.div_le_self ..

lemma div_of_natAbs {a b : Int} (hb : b ≠ 0) (ha : a.natAbs < 9223372036854775808) :
    div a b = .ok (a.tdiv b) := by
  have hle := natAbs_tdiv_le a b
  rw [div, if_neg hb, wide_of_natAbs (by omega)]

/-- The product of two numbers of 32 bits can be divided, and what comes of it leaves room for a
number that is added to it. -/
lemma mulDiv_eq {a b d : Int} (ha : a.natAbs ≤ 2147483648) (hb : b.natAbs ≤ 2147483648)
    (hd : d ≠ 0) :
    mul a b = .ok (a * b) ∧ div (a * b) d = .ok ((a * b).tdiv d) ∧
      ((a * b).tdiv d).natAbs ≤ 4611686018427387904 := by
  have hproduct : (a * b).natAbs ≤ 2147483648 * 2147483648 := by
    rw [Int.natAbs_mul]
    exact Nat.mul_le_mul ha hb
  have hquotient := natAbs_tdiv_le (a * b) d
  exact ⟨wide_of_natAbs (by omega), div_of_natAbs hd (by omega), by omega⟩

lemma clamp_of_le {lo hi n : Int} (h : lo ≤ hi) : clamp lo hi n = .ok (clampInt lo hi n) :=
  if_pos h

/-! ## Narrower words -/

lemma natAbs_toInt_le (a : Int32) : a.toInt.natAbs ≤ 2147483648 := by
  have hlo := a.le_toInt
  have hhi := a.toInt_lt
  omega

lemma toInt32_of_mem {n : Int} (h₁ : -2147483648 ≤ n) (h₂ : n ≤ 2147483647) :
    toInt32 n = .ok (Int32.ofInt n) :=
  if_pos ⟨h₁, h₂⟩

lemma toUInt16_of_mem {n : Int} (h₁ : 0 ≤ n) (h₂ : n ≤ 65535) :
    toUInt16 n = .ok (UInt16.ofInt n) :=
  if_pos ⟨h₁, h₂⟩

/-- A quotient by a number above zero always fits. -/
lemma divInt32_of_pos (a : Int32) {b : Int32} (h : 0 < b.toInt) :
    divInt32 a b = .ok (Int32.ofInt (a.toInt.tdiv b.toInt)) := by
  have hzero : b ≠ 0 := by
    rintro rfl
    exact absurd h (by decide)
  have hone : b ≠ -1 := by
    rintro rfl
    exact absurd h (by decide)
  rw [divInt32, if_neg hzero, if_neg fun h => hone h.2]

/-- A limited move ends between two words, so at a word. -/
lemma limitedMove_eq (position goal limit : Int32) (hl : 0 ≤ limit.toInt) :
    limitedMove position goal limit = .ok (Int32.ofInt (position.toInt +
      clampInt (-limit.toInt) limit.toInt (goal.toInt - position.toInt))) := by
  have hposition := And.intro position.le_toInt position.toInt_lt
  have hgoal := And.intro goal.le_toInt goal.toInt_lt
  have hlimit := natAbs_toInt_le limit
  have hbetween := add_clampInt_between position.toInt goal.toInt hl
  rw [limitedMove, neg_of_natAbs (by omega), ok_bind, sub_of_natAbs (by omega), ok_bind,
    clamp_of_le (by omega), ok_bind]
  generalize clampInt (-limit.toInt) limit.toInt (goal.toInt - position.toInt) = step at hbetween
  rw [add_of_natAbs (by omega), ok_bind, toInt32_of_mem (by omega) (by omega)]

/-! ## Counters -/

/-- A counter that stays at its largest value never goes beyond it. -/
lemma countUp16_eq (n : UInt16) : countUp16 n = .ok (FrontZone.countUp16 n) := by
  unfold countUp16 FrontZone.countUp16 succUInt16
  split <;> rfl

lemma succUInt8_of_ne {n : UInt8} (h : n ≠ 255) : succUInt8 n = .ok (n + 1) :=
  if_neg h

lemma predUInt8_of_ne {n : UInt8} (h : n ≠ 0) : predUInt8 n = .ok (n - 1) :=
  if_neg h

/-! ## Runs -/

/-- A machine whose steps are exact under an invariant, which they keep, is exact over a run. -/
theorem foldlM_exact {σ α : Type} {checked : σ → α → Checked σ} {exact : σ → α → σ}
    (inv : σ → Prop) (hstep : ∀ s a, inv s → checked s a = .ok (exact s a))
    (hkeep : ∀ s a, inv s → inv (exact s a)) {s : σ} (hs : inv s) (as : List α) :
    as.foldlM checked s = .ok (as.foldl exact s) ∧ inv (as.foldl exact s) := by
  induction as generalizing s with
  | nil => exact ⟨rfl, hs⟩
  | cons a as ih =>
    rw [List.foldlM_cons, hstep s a hs, ok_bind, List.foldl_cons]
    exact ih (hkeep s a hs)

end Machine

end FrontZone
