import FrontZone.Monitor
import Mathlib.Order.Lattice
/-!
# Laws of motion

Both rules that move the governed position are computed in exact integers and then stored in a word.
Here they are read back as integers: `toInt_rateLimit` and `toInt_rampToward` say that nothing is
lost on the way, and the two `contains_` lemmas that neither rule leaves the position range.
-/

namespace FrontZone

/-! ## Words and ranges -/

lemma toInt_max (a b : Int32) : (max a b).toInt = max a.toInt b.toInt := by
  show (if a ≤ b then b else a).toInt = _
  split
  · next h => rw [max_eq_right (Int32.le_iff_toInt_le.mp h)]
  · next h => rw [max_eq_left (by rw [Int32.le_iff_toInt_le] at h; omega)]

lemma toInt_min (a b : Int32) : (min a b).toInt = min a.toInt b.toInt := by
  show (if a ≤ b then a else b).toInt = _
  split
  · next h => rw [min_eq_left (Int32.le_iff_toInt_le.mp h)]
  · next h => rw [min_eq_right (by rw [Int32.le_iff_toInt_le] at h; omega)]

/-- A word is the word nearest to itself. -/
lemma saturate_toInt (v : Int32) : saturate v.toInt = v := by
  have hv := And.intro v.le_toInt v.toInt_lt
  refine Int32.toInt_inj.mp ?_
  rw [toInt_saturate, clampInt_eq_self (by omega) (by omega)]

lemma PositionRange.contains_iff {r : PositionRange} {v : Int32} :
    r.contains v ↔ r.min.toInt ≤ v.toInt ∧ v.toInt ≤ r.max.toInt := by
  simp [contains, Int32.le_iff_toInt_le]

/-- A range that holds two positions holds every position between them. -/
lemma contains_of_between {r : PositionRange} {a b v : Int32} (ha : r.contains a)
    (hb : r.contains b) (hlo : min a.toInt b.toInt ≤ v.toInt)
    (hhi : v.toInt ≤ max a.toInt b.toInt) : r.contains v := by
  rw [PositionRange.contains_iff] at ha hb ⊢
  omega

/-- The nearest position of a range is in it. -/
lemma PositionRange.contains_clamp {r : PositionRange} (h : r.min.toInt ≤ r.max.toInt) (v : Int32) :
    r.contains (r.clamp v) := by
  rw [contains_iff]
  unfold clamp
  simp only [Int32.lt_iff_toInt_lt]
  split <;> [skip; split] <;> omega

/-! ## The slew limit -/

/-- A step of bounded size ends between where it starts and where it is headed. -/
lemma add_clampInt_between (position target : Int) {limit : Int} (hl : 0 ≤ limit) :
    min position target ≤ position + clampInt (-limit) limit (target - position) ∧
      position + clampInt (-limit) limit (target - position) ≤ max position target := by
  unfold clampInt
  split <;> [skip; split] <;> omega

/-- A limited move ends between where it starts and where it is headed. -/
theorem slewLimited_between (position target safe : Int) {limit : Int} (hl : 0 ≤ limit) :
    min position target ≤ slewLimited position target safe limit ∧
      slewLimited position target safe limit ≤ max position target := by
  unfold slewLimited
  split
  · omega
  · exact add_clampInt_between position target hl

/-- The position under the slew limit is the exact one. -/
theorem toInt_rateLimit {position target safe limit : Int32} (hl : 0 ≤ limit.toInt) :
    (rateLimit position target safe limit).toInt =
      slewLimited position.toInt target.toInt safe.toInt limit.toInt := by
  have hbetween := slewLimited_between position.toInt target.toInt safe.toInt hl
  have hp := And.intro position.le_toInt position.toInt_lt
  have ht := And.intro target.le_toInt target.toInt_lt
  exact toInt_ofInt_of_mem (by omega) (by omega)

/-- A target no farther from the safe value than the position is reached at once. -/
lemma rateLimit_of_near {position target safe : Int32}
    (h : distance target safe ≤ distance position safe) (limit : Int32) :
    rateLimit position target safe limit = target := by
  have hjump : slewLimited position.toInt target.toInt safe.toInt limit.toInt = target.toInt :=
    if_pos h
  rw [rateLimit, hjump, Int32.ofInt_toInt]

/-- A target farther from the safe value is approached by a step of bounded size. -/
lemma toInt_rateLimit_of_far {position target safe limit : Int32} (hl : 0 ≤ limit.toInt)
    (h : distance position safe < distance target safe) :
    (rateLimit position target safe limit).toInt =
      position.toInt + clampInt (-limit.toInt) limit.toInt (target.toInt - position.toInt) := by
  rw [toInt_rateLimit hl]
  exact if_neg (Nat.not_le_of_lt h)

/-- A step that is not a jump is within the limit. -/
lemma distance_rateLimit_of_far {position target safe limit : Int32} (hl : 0 ≤ limit.toInt)
    (h : distance position safe < distance target safe) :
    (distance (rateLimit position target safe limit) position : Int) ≤ limit.toInt := by
  have hlo : -limit.toInt ≤ clampInt (-limit.toInt) limit.toInt (target.toInt - position.toInt) :=
    le_clampInt (by omega)
  have hhi : clampInt (-limit.toInt) limit.toInt (target.toInt - position.toInt) ≤ limit.toInt :=
    clampInt_le (by omega)
  unfold distance
  rw [toInt_rateLimit_of_far hl h]
  omega

lemma contains_rateLimit {r : PositionRange} {position target safe limit : Int32}
    (hl : 0 ≤ limit.toInt) (hp : r.contains position) (ht : r.contains target) :
    r.contains (rateLimit position target safe limit) := by
  have hbetween := slewLimited_between position.toInt target.toInt safe.toInt hl
  rw [← toInt_rateLimit hl] at hbetween
  exact contains_of_between hp ht hbetween.1 hbetween.2

/-! ## The ramp -/

/-- One step of the ramp moves by the rate, but not past the safe value. -/
theorem toInt_rampToward (position safe : Int32) {rate : Int32} (hr : 0 ≤ rate.toInt) :
    (rampToward position safe rate).toInt =
      if safe.toInt < position.toInt then max (position.toInt - rate.toInt) safe.toInt
      else min (position.toInt + rate.toInt) safe.toInt := by
  have hp := And.intro position.le_toInt position.toInt_lt
  have hs := And.intro safe.le_toInt safe.toInt_lt
  simp only [rampToward, Int32.lt_iff_toInt_lt]
  -- saturation cannot show: the end of the word lies beyond the safe value
  by_cases hdown : safe.toInt < position.toInt
  · rw [if_pos hdown, if_pos hdown, toInt_max, toInt_saturate]
    unfold clampInt
    split <;> [skip; split] <;> omega
  · rw [if_neg hdown, if_neg hdown]
    by_cases hup : position.toInt < safe.toInt
    · rw [if_pos hup, toInt_min, toInt_saturate]
      unfold clampInt
      split <;> [skip; split] <;> omega
    · rw [if_neg hup]
      omega

lemma contains_rampToward {r : PositionRange} {position safe rate : Int32} (hr : 0 ≤ rate.toInt)
    (hp : r.contains position) (hs : r.contains safe) :
    r.contains (rampToward position safe rate) := by
  have hexact := toInt_rampToward position safe hr
  apply contains_of_between hp hs
  · rw [hexact]; split <;> omega
  · rw [hexact]; split <;> omega

end FrontZone
