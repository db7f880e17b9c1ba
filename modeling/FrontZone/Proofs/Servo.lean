import FrontZone.Proofs.Drive
import FrontZone.Proofs.Motion
import FrontZone.Servo
import Mathlib.Tactic.Linarith
import Mathlib.Tactic.Ring
/-!
# The servo behind the drive signal

A position goes out as a drive signal and comes back as the position that the signal asks for, both
times through a truncating division. What is lost is bounded by `rawTarget_of_nonneg` and
`rawTarget_of_nonpos`, one for each half of the drive domain: the place asked for lies between zero
and the position, short of it by at most one step of the coarser of the two scales. A servo whose
range reaches to zero goes there (`target_of_nonneg`, `target_of_nonpos`). The reading rounds to the
nearest signal unit (`roundDiv_near`).
-/

namespace FrontZone
namespace Servo

/-! ## The reading -/

/-- Rounding is off by at most half the divisor. -/
lemma roundDiv_near (n : Int) {scale : Int} (h : 0 < scale) :
    n - scale / 2 ≤ roundDiv n scale * scale ∧ roundDiv n scale * scale ≤ n + scale / 2 := by
  have hhalf : scale.tdiv 2 = scale / 2 := Int.tdiv_eq_ediv_of_nonneg (by omega)
  unfold roundDiv
  dsimp only
  rw [hhalf]
  split
  · next hn =>
    rw [Int.tdiv_eq_ediv_of_nonneg (by omega)]
    have hdiv := Int.ediv_mul_add_emod (n + scale / 2) scale
    have hlow := Int.emod_nonneg (n + scale / 2) (by omega : scale ≠ 0)
    have hhigh := Int.emod_lt_of_pos (n + scale / 2) h
    omega
  -- below zero the mirrored number is rounded
  · next hn =>
    rw [show n - scale / 2 = -(scale / 2 - n) by omega, Int.neg_tdiv,
      Int.tdiv_eq_ediv_of_nonneg (by omega), Int.neg_mul]
    have hdiv := Int.ediv_mul_add_emod (scale / 2 - n) scale
    have hlow := Int.emod_nonneg (scale / 2 - n) (by omega : scale ≠ 0)
    have hhigh := Int.emod_lt_of_pos (scale / 2 - n) h
    omega

/-- What is rounded in a word fits a word. -/
lemma toInt_measured {s : Servo} (h : 0 < s.scale.toInt) :
    s.measured.toInt = roundDiv s.actual.toInt s.scale.toInt := by
  obtain ⟨hlow, hhigh⟩ := roundDiv_near s.actual.toInt h
  have hactual := And.intro s.actual.le_toInt s.actual.toInt_lt
  have hhalf : 2 * (s.scale.toInt / 2) ≤ s.scale.toInt := by omega
  generalize hm : roundDiv s.actual.toInt s.scale.toInt = m at hlow hhigh
  have hword : -2147483648 ≤ m ∧ m ≤ 2147483647 := by
    constructor
    · by_contra hlt
      nlinarith
    · by_contra hlt
      nlinarith
  unfold measured
  rw [hm]
  exact toInt_ofInt_of_mem hword.1 hword.2

/-! ## The position asked for -/

/-- A quotient rounded toward zero falls short by less than the divisor. -/
lemma tdiv_near {n d : Int} (hn : 0 ≤ n) (hd : 0 < d) :
    0 ≤ n.tdiv d ∧ n.tdiv d * d ≤ n ∧ n < n.tdiv d * d + d := by
  have hdiv := Int.ediv_mul_add_emod n d
  have hlow := Int.emod_nonneg n hd.ne'
  have hhigh := Int.emod_lt_of_pos n hd
  rw [← Int.tdiv_eq_ediv_of_nonneg hn] at hdiv
  exact ⟨Int.tdiv_nonneg hn hd.le, by omega, by omega⟩

/-- Scaling by `d / r` and back again loses less than a step of either scale. -/
lemma tdiv_mul_tdiv {p r d : Int} (hp : 0 ≤ p) (hr : 0 < r) (hd : 0 < d) :
    0 ≤ (p * d).tdiv r ∧ (p ≤ r → (p * d).tdiv r ≤ d) ∧
      0 ≤ ((p * d).tdiv r * r).tdiv d ∧ ((p * d).tdiv r * r).tdiv d ≤ p ∧
      (p - ((p * d).tdiv r * r).tdiv d - 1) * d < r := by
  obtain ⟨hq, hqlow, hqhigh⟩ := tdiv_near (Int.mul_nonneg hp hd.le) hr
  generalize (p * d).tdiv r = q at hq hqlow hqhigh ⊢
  obtain ⟨ht, htlow, hthigh⟩ := tdiv_near (Int.mul_nonneg hq hr.le) hd
  generalize (q * r).tdiv d = t at ht htlow hthigh ⊢
  refine ⟨hq, fun hpr => ?_, ht, ?_, ?_⟩
  · have hle : q * r ≤ d * r := hqlow.trans (by nlinarith)
    exact le_of_mul_le_mul_right hle hr
  · exact le_of_mul_le_mul_right (htlow.trans hqlow) hd
  · have hexpand : (p - t - 1) * d = p * d - t * d - d := by ring
    omega

section Raw
variable {range : PositionRange} {output : DriveDomain} {position : Int32}

/-- A position in the upper half of the range comes back as one not much below it. -/
lemma rawTarget_of_nonneg (hout : output.min ≤ output.center) (hmax : output.center < output.max)
    (hr : 0 < range.max.toInt) (hp : 0 ≤ position.toInt)
    (hle : position.toInt ≤ range.max.toInt) :
    let t := rawTarget range output (mapToDrive position range output)
    0 ≤ t ∧ t ≤ position.toInt ∧
      (position.toInt - t - 1) * (output.max.toNat - output.center.toNat : Int) <
        range.max.toInt := by
  rw [UInt16.le_iff_toNat_le] at hout
  rw [UInt16.lt_iff_toNat_lt] at hmax
  have hd : 0 < (output.max.toNat - output.center.toNat : Int) := by omega
  obtain ⟨hq, hqd, ht, htp, hloss⟩ := tdiv_mul_tdiv hp hr hd
  have hduty := toNat_mapToDrive position range (UInt16.le_iff_toNat_le.mpr (hout.trans hmax.le))
  have hqle := hqd hle
  rw [driveValue_of_nonneg hp, share_of_pos hr, clampInt_eq_self (by omega) (by omega)] at hduty
  have htarget : rawTarget range output (mapToDrive position range output) =
      ((position.toInt * (output.max.toNat - output.center.toNat)).tdiv range.max.toInt *
        range.max.toInt).tdiv (output.max.toNat - output.center.toNat) := by
    unfold rawTarget
    dsimp only
    rw [hduty, if_pos (by omega), if_neg (by omega), if_pos hr.le, add_sub_cancel_left]
  dsimp only
  rw [htarget]
  exact ⟨ht, htp, hloss⟩

/-- A position in the lower half of the range comes back as one not much above it. -/
lemma rawTarget_of_nonpos (hout : output.center ≤ output.max) (hmin : output.min < output.center)
    (hr : range.min.toInt < 0) (hp : position.toInt ≤ 0)
    (hle : range.min.toInt ≤ position.toInt) :
    let t := rawTarget range output (mapToDrive position range output)
    t ≤ 0 ∧ position.toInt ≤ t ∧
      (t - position.toInt - 1) * (output.center.toNat - output.min.toNat : Int) <
        -range.min.toInt := by
  rw [UInt16.le_iff_toNat_le] at hout
  rw [UInt16.lt_iff_toNat_lt] at hmin
  have hd : 0 < (output.center.toNat - output.min.toNat : Int) := by omega
  obtain ⟨hq, hqd, ht, htp, hloss⟩ :=
    tdiv_mul_tdiv (p := -position.toInt) (r := -range.min.toInt) (by omega) (by omega) hd
  generalize hquot : (-position.toInt * (output.center.toNat - output.min.toNat)).tdiv
    (-range.min.toInt) = q at hq hqd ht htp hloss
  have hduty := toNat_mapToDrive position range (UInt16.le_iff_toNat_le.mpr (hmin.le.trans hout))
  have hqle := hqd (by omega)
  rw [driveValue_of_nonpos hp, share_of_pos (by omega), hquot,
    clampInt_eq_self (by omega) (by omega)] at hduty
  have htarget : rawTarget range output (mapToDrive position range output) =
      -(q * -range.min.toInt).tdiv (output.center.toNat - output.min.toNat) := by
    unfold rawTarget
    dsimp only
    rw [hduty]
    by_cases hzero : q = 0
    · -- the neutral drive signal belongs to the upper half of the domain
      subst hzero
      rw [if_pos (by omega), Int.sub_zero, Int.sub_self, Int.zero_mul, Int.zero_mul, Int.zero_tdiv,
        Int.zero_tdiv, ite_self]
      rfl
    · rw [if_neg (by omega), if_neg (by omega), if_pos hr.le, ← Int.neg_tdiv, ← Int.neg_mul,
        show (output.center.toNat - q - output.center.toNat : Int) = -q by omega]
  dsimp only
  rw [htarget]
  generalize (q * -range.min.toInt).tdiv _ = t at ht htp hloss
  refine ⟨by omega, by omega, ?_⟩
  rwa [show -t - position.toInt = -position.toInt - t by omega]

/-- The middle of the range comes back as it is. -/
lemma rawTarget_of_zero (range : PositionRange) (hmin : output.min ≤ output.center)
    (hmax : output.center ≤ output.max) (hp : position.toInt = 0) :
    rawTarget range output (mapToDrive position range output) = 0 := by
  have hduty := toNat_mapToDrive position range (UInt16.le_trans hmin hmax)
  rw [UInt16.le_iff_toNat_le] at hmin hmax
  rw [hp, driveValue_of_nonneg (Int.le_refl 0), share_zero, Int.add_zero,
    clampInt_eq_self (by omega) (by omega)] at hduty
  unfold rawTarget
  dsimp only
  rw [hduty, if_pos (Int.le_refl _), Int.sub_self, Int.zero_mul, Int.zero_tdiv, ite_self]

end Raw

section Target
variable {s : Servo} {position : Int32}

/-- A servo whose range reaches down to zero is sent to where its drive signal asks. -/
theorem target_of_nonneg (hmin : s.range.min.toInt ≤ 0) (hout : s.output.min ≤ s.output.center)
    (hmax : s.output.center < s.output.max) (hr : 0 < s.range.max.toInt)
    (hp : 0 ≤ position.toInt) (hle : position.toInt ≤ s.range.max.toInt) :
    let t := s.target (mapToDrive position s.range s.output)
    0 ≤ t ∧ t ≤ position.toInt ∧
      (position.toInt - t - 1) * (s.output.max.toNat - s.output.center.toNat : Int) <
        s.range.max.toInt := by
  obtain ⟨ht, htp, hloss⟩ := rawTarget_of_nonneg hout hmax hr hp hle
  have htarget : s.target (mapToDrive position s.range s.output) =
      rawTarget s.range s.output (mapToDrive position s.range s.output) :=
    clampInt_eq_self (by omega) (by omega)
  dsimp only
  rw [htarget]
  exact ⟨ht, htp, hloss⟩

/-- A servo whose range reaches up to zero is sent to where its drive signal asks. -/
theorem target_of_nonpos (hmax : 0 ≤ s.range.max.toInt) (hout : s.output.center ≤ s.output.max)
    (hmin : s.output.min < s.output.center) (hr : s.range.min.toInt < 0)
    (hp : position.toInt ≤ 0) (hle : s.range.min.toInt ≤ position.toInt) :
    let t := s.target (mapToDrive position s.range s.output)
    t ≤ 0 ∧ position.toInt ≤ t ∧
      (t - position.toInt - 1) * (s.output.center.toNat - s.output.min.toNat : Int) <
        -s.range.min.toInt := by
  obtain ⟨ht, htp, hloss⟩ := rawTarget_of_nonpos hout hmin hr hp hle
  have htarget : s.target (mapToDrive position s.range s.output) =
      rawTarget s.range s.output (mapToDrive position s.range s.output) :=
    clampInt_eq_self (by omega) (by omega)
  dsimp only
  rw [htarget]
  exact ⟨ht, htp, hloss⟩

end Target

/-! ## The motion -/

/-- A servo does not leave its range. -/
lemma contains_advance {s : Servo} (h : s.range.min.toInt ≤ s.range.max.toInt) (duty : UInt16) :
    s.range.contains (s.advance duty).actual :=
  PositionRange.contains_clamp h _

/-- Within its range a servo moves toward the position asked for, by its slew at most. -/
theorem toInt_advance {s : Servo} (hactual : s.range.contains s.actual)
    (hslew : 0 ≤ s.slewPerCycle.toInt) (duty : UInt16) :
    (s.advance duty).actual.toInt = s.actual.toInt +
      clampInt (-s.slewPerCycle.toInt) s.slewPerCycle.toInt (s.target duty - s.actual.toInt) := by
  obtain ⟨hmin, hmax⟩ := PositionRange.contains_iff.mp hactual
  have hlow : s.range.min.toInt ≤ s.target duty := le_clampInt (hmin.trans hmax)
  have hhigh : s.target duty ≤ s.range.max.toInt := clampInt_le (hmin.trans hmax)
  have hends := And.intro s.range.min.le_toInt s.range.max.toInt_lt
  generalize hmoved : s.actual.toInt +
    clampInt (-s.slewPerCycle.toInt) s.slewPerCycle.toInt (s.target duty - s.actual.toInt) = moved
  -- a move between two places of the range stays in it, so no clamp shows
  have hbetween : s.range.min.toInt ≤ moved ∧ moved ≤ s.range.max.toInt := by
    rw [← hmoved]
    unfold clampInt
    split <;> [skip; split] <;> omega
  have hword : (Int32.ofInt moved).toInt = moved := toInt_ofInt_of_mem (by omega) (by omega)
  show (s.range.clamp (Int32.ofInt (s.actual.toInt + clampInt _ _ _))).toInt = moved
  rw [hmoved]
  unfold PositionRange.clamp
  rw [if_neg (by rw [Int32.lt_iff_toInt_lt]; omega), if_neg (by rw [Int32.lt_iff_toInt_lt]; omega)]
  exact hword

end Servo
end FrontZone
