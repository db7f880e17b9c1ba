import FrontZone.Calibration.Validity
import FrontZone.Proofs.Approach
import FrontZone.Proofs.Servo
import Mathlib.Data.List.Induction
/-!
# Where a driven servo settles

A servo that is driven with the signal of one position goes to one place by steps of its slew and
stays there (`IsOf.toInt_driven`). The place is not quite the position, since two positions may
share a drive signal: it lies between zero and the position and is short of it by at most the
coarseness of that half of the drive domain (`destination_near`). The reading adds half a signal
unit to that. `servo_settles` puts this together for every servo of a calibration, wherever it has
got to.
-/

namespace FrontZone

/-- If `n - 1` units of `d` make less than `r`, then `n` is at most the quotient rounded up. -/
lemma le_ceilDiv_of_mul_lt {n : Int} {r d : Nat} (hd : 0 < d) (h : (n - 1) * d < r) :
    n ≤ (r ⌈/⌉ d : Nat) := by
  have hup : r ≤ d * (r ⌈/⌉ d) := (ceilDiv_le_iff_le_mul hd).mp le_rfl
  have hup' : (r : Int) ≤ (r ⌈/⌉ d : Nat) * d := by
    rw [Int.mul_comm]
    exact_mod_cast hup
  have hlt : n - 1 < (r ⌈/⌉ d : Nat) :=
    lt_of_mul_lt_mul_right (h.trans_le hup') (Int.natCast_nonneg d)
  omega

namespace Servo

variable {c : Calibration} {slew : Int32} {s : Servo} {position : Int32}

/-! ## Driving a servo -/

/-- The servo after it was driven with these signals, one for each cycle. -/
def driven (s : Servo) (duties : List UInt16) : Servo :=
  duties.foldl advance s

lemma driven_concat (s : Servo) (duties : List UInt16) (duty : UInt16) :
    s.driven (duties ++ [duty]) = (s.driven duties).advance duty :=
  List.foldl_concat ..

/-- A servo of a calibration, wherever in the range it stands. -/
structure IsOf (c : Calibration) (slew : Int32) (s : Servo) : Prop where
  range_eq : s.range = c.range
  output_eq : s.output = c.output
  scale_eq : s.scale = c.signalScale
  slew_eq : s.slewPerCycle = max slew 1
  actual_mem : c.range.contains s.actual

lemma isOf_ofCalibration (hv : c.IsValid) (slew : Int32) : IsOf c slew (ofCalibration c slew) :=
  ⟨rfl, rfl, rfl, rfl, hv.initial_mem⟩

lemma range_toInt_le (hv : c.IsValid) : c.range.min.toInt ≤ c.range.max.toInt :=
  Int32.le_iff_toInt_le.mp hv.range_nonempty

lemma IsOf.advance (hv : c.IsValid) (h : IsOf c slew s) (duty : UInt16) :
    IsOf c slew (s.advance duty) where
  range_eq := h.range_eq
  output_eq := h.output_eq
  scale_eq := h.scale_eq
  slew_eq := h.slew_eq
  actual_mem := by
    rw [← h.range_eq]
    exact contains_advance (h.range_eq ▸ range_toInt_le hv) duty

theorem IsOf.driven (hv : c.IsValid) (h : IsOf c slew s) (duties : List UInt16) :
    IsOf c slew (s.driven duties) := by
  induction duties using List.reverseRecOn with
  | nil => exact h
  | append_singleton duties duty ih =>
    rw [driven_concat]
    exact ih.advance hv duty

/-- Every servo moves by at least one unit a cycle. -/
lemma IsOf.slew_pos (h : IsOf c slew s) : 0 < s.slewPerCycle.toInt := by
  have hone : (1 : Int32).toInt = 1 := rfl
  rw [h.slew_eq, toInt_max, hone]
  omega

/-! ## The way -/

/-- The place to which a drive signal sends the servos of a calibration. -/
def destination (c : Calibration) (duty : UInt16) : Int32 :=
  Int32.ofInt (clampInt c.range.min.toInt c.range.max.toInt (rawTarget c.range c.output duty))

lemma toInt_destination (hv : c.IsValid) (duty : UInt16) :
    (destination c duty).toInt =
      clampInt c.range.min.toInt c.range.max.toInt (rawTarget c.range c.output duty) := by
  have hle := range_toInt_le hv
  have hends := And.intro c.range.min.le_toInt c.range.max.toInt_lt
  have hlow : c.range.min.toInt ≤ clampInt c.range.min.toInt c.range.max.toInt
      (rawTarget c.range c.output duty) := le_clampInt hle
  have hhigh : clampInt c.range.min.toInt c.range.max.toInt
      (rawTarget c.range c.output duty) ≤ c.range.max.toInt := clampInt_le hle
  exact toInt_ofInt_of_mem (by omega) (by omega)

lemma contains_destination (hv : c.IsValid) (duty : UInt16) :
    c.range.contains (destination c duty) := by
  rw [PositionRange.contains_iff, toInt_destination hv]
  exact ⟨le_clampInt (range_toInt_le hv), clampInt_le (range_toInt_le hv)⟩

lemma IsOf.target_eq (hv : c.IsValid) (h : IsOf c slew s) (duty : UInt16) :
    s.target duty = (destination c duty).toInt := by
  rw [toInt_destination hv, target, h.range_eq, h.output_eq]

/-- A servo that is driven with one signal goes toward its destination by the slew each cycle. -/
theorem IsOf.toInt_driven (hv : c.IsValid) (h : IsOf c slew s) (duty : UInt16) (n : Nat) :
    (s.driven (List.replicate n duty)).actual.toInt =
      approach s.actual.toInt (destination c duty).toInt (n * s.slewPerCycle.toInt) := by
  have hslew := h.slew_pos
  induction n with
  | zero => rw [Int.natCast_zero, Int.zero_mul, approach_zero]; rfl
  | succ n ih =>
    have hthere := h.driven hv (List.replicate n duty)
    have hsame : (s.driven (List.replicate n duty)).slewPerCycle = s.slewPerCycle :=
      hthere.slew_eq.trans h.slew_eq.symm
    rw [List.replicate_succ', driven_concat,
      toInt_advance (by rw [hthere.range_eq]; exact hthere.actual_mem) (by rw [hsame]; exact hslew.le),
      hthere.target_eq hv, hsame]
    show approach _ _ _ = _
    rw [ih, approach_succ hslew.le]

/-- It is there exactly once the cycles are enough for the way. -/
lemma IsOf.driven_eq_iff (hv : c.IsValid) (h : IsOf c slew s) (duty : UInt16) (n : Nat) :
    (s.driven (List.replicate n duty)).actual = destination c duty ↔
      distance s.actual (destination c duty) ⌈/⌉ s.slewPerCycle.toInt.toNat ≤ n := by
  rw [← Int32.toInt_inj, h.toInt_driven hv, approach_steps_iff h.slew_pos, natAbs_sub_eq_distance]

/-! ## The place -/

/-- How many positions may share one drive signal, on the side of zero on which `position` lies. -/
def coarseness (c : Calibration) (position : Int32) : Nat :=
  if 0 < position then
    c.range.max.toInt.natAbs ⌈/⌉ (c.output.max.toNat - c.output.center.toNat)
  else if position < 0 then
    c.range.min.toInt.natAbs ⌈/⌉ (c.output.center.toNat - c.output.min.toNat)
  else 0

/-- Holding a place between zero and a position of the range to the range brings it no farther from
that position. -/
lemma clampInt_between {lo hi p t : Int} (hlo : lo ≤ p) (hhi : p ≤ hi) (ht : min 0 p ≤ t)
    (ht' : t ≤ max 0 p) :
    min 0 p ≤ clampInt lo hi t ∧ clampInt lo hi t ≤ max 0 p ∧
      (p - clampInt lo hi t).natAbs ≤ (p - t).natAbs := by
  unfold clampInt
  split_ifs <;> omega

/-- The drive signal of a position sends a servo to a place between zero and the position, and not
far from it. -/
theorem destination_near (hv : c.IsValid)
    (hup : 0 < c.range.max → c.output.center < c.output.max)
    (hdown : c.range.min < 0 → c.output.min < c.output.center) (hp : c.range.contains position) :
    let place := destination c (mapToDrive position c.range c.output)
    min 0 position.toInt ≤ place.toInt ∧ place.toInt ≤ max 0 position.toInt ∧
      distance position place ≤ coarseness c position := by
  intro place
  rw [PositionRange.contains_iff] at hp
  rw [Int32.lt_iff_toInt_lt, Int32.toInt_zero] at hup hdown
  obtain ⟨hmin, hmax⟩ := hp
  have hplace := toInt_destination hv (mapToDrive position c.range c.output)
  unfold distance coarseness
  simp only [Int32.lt_iff_toInt_lt, Int32.toInt_zero]
  rcases Int.lt_trichotomy position.toInt 0 with hneg | hzero | hpos
  · have hlt := hdown (by omega)
    obtain ⟨ht, htp, hloss⟩ :=
      rawTarget_of_nonpos hv.output_le_max hlt (by omega) hneg.le hmin
    generalize rawTarget c.range c.output _ = t at hplace ht htp hloss
    obtain ⟨hlow, hhigh, hshort⟩ :=
      clampInt_between hmin hmax (show min 0 position.toInt ≤ t by omega) (by omega)
    rw [UInt16.lt_iff_toNat_lt] at hlt
    rw [← Int.ofNat_sub hlt.le] at hloss
    have hle : t - position.toInt ≤ (c.range.min.toInt.natAbs ⌈/⌉ _ : Nat) :=
      le_ceilDiv_of_mul_lt (by omega) (hloss.trans_eq (by omega))
    rw [if_neg (by omega), if_pos hneg, hplace]
    exact ⟨hlow, hhigh, by omega⟩
  · have ht := rawTarget_of_zero c.range hv.output_min_le hv.output_le_max hzero
    rw [ht, clampInt_eq_self (by omega) (by omega)] at hplace
    rw [if_neg (by omega), if_neg (by omega), hplace]
    omega
  · have hlt := hup (by omega)
    obtain ⟨ht, htp, hloss⟩ :=
      rawTarget_of_nonneg hv.output_min_le hlt (by omega) hpos.le hmax
    generalize rawTarget c.range c.output _ = t at hplace ht htp hloss
    obtain ⟨hlow, hhigh, hshort⟩ :=
      clampInt_between hmin hmax (show min 0 position.toInt ≤ t by omega) (by omega)
    rw [UInt16.lt_iff_toNat_lt] at hlt
    rw [← Int.ofNat_sub hlt.le] at hloss
    have hle : position.toInt - t ≤ (c.range.max.toInt.natAbs ⌈/⌉ _ : Nat) :=
      le_ceilDiv_of_mul_lt (by omega) (hloss.trans_eq (by omega))
    rw [if_pos hpos, hplace]
    exact ⟨hlow, hhigh, by omega⟩

/-! ## The reading -/

lemma scale_toInt_pos (hv : c.IsValid) : 0 < c.signalScale.toInt := by
  have hs := hv.scale_pos
  rwa [Int32.lt_iff_toInt_lt, Int32.toInt_zero] at hs

/-- The reading of a servo, in internal units, is off by half a signal unit at most. -/
theorem IsOf.reading_near (hv : c.IsValid) (h : IsOf c slew s) :
    (distance (c.toInternal s.measured) s.actual : Int) ≤ c.signalScale.toInt / 2 := by
  have hscale : 0 < s.scale.toInt := h.scale_eq ▸ scale_toInt_pos hv
  have hactual := And.intro s.actual.le_toInt s.actual.toInt_lt
  obtain ⟨hlow, hhigh⟩ := roundDiv_near s.actual.toInt hscale
  unfold distance Calibration.toInternal
  rw [toInt_saturate, toInt_measured hscale, ← h.scale_eq]
  -- where the product saturates, the end of the word lies between it and the servo
  unfold clampInt
  split_ifs <;> omega

/-! ## Settling -/

/-- What is left of a position `p` once its drive signal has gone through a servo of calibration `c`
that stands at `a`. -/
structure Settled (c : Calibration) (p a : Int32) (s : Servo) : Prop where
  actual_eq : s.actual = a
  /-- The reading is off by half a signal unit at most. -/
  reading_near : (distance (c.toInternal s.measured) a : Int) ≤ c.signalScale.toInt / 2
  error_le : (distance (c.toInternal s.measured) p : Int) ≤
    coarseness c p + c.signalScale.toInt / 2

/-- A position in range is driven to one place between zero and itself, short of it by the
coarseness of the drive domain at most: every servo of the calibration, wherever it stands, has
settled there exactly once the cycles are enough for the way at its slew. -/
theorem servo_settles (hv : c.IsValid) (hup : 0 < c.range.max → c.output.center < c.output.max)
    (hdown : c.range.min < 0 → c.output.min < c.output.center) (hp : c.range.contains position) :
    let duty := mapToDrive position c.range c.output
    ∃ a : Int32, c.range.contains a ∧ min 0 position.toInt ≤ a.toInt ∧
      a.toInt ≤ max 0 position.toInt ∧ distance position a ≤ coarseness c position ∧
      ∀ slew duties, let s := (ofCalibration c slew).driven duties
        ∀ n, let s' := s.driven (List.replicate n duty)
          s'.advance? duty = some (s'.advance duty) ∧ s'.measured? = some s'.measured ∧
            (Settled c position a s' ↔ distance s.actual a ⌈/⌉ s.slewPerCycle.toInt.toNat ≤ n) := by
  intro duty
  obtain ⟨hlow, hhigh, hnear⟩ := destination_near hv hup hdown hp
  refine ⟨destination c duty, contains_destination hv duty, hlow, hhigh, hnear, ?_⟩
  intro slew duties s n s'
  have hs : IsOf c slew s := (isOf_ofCalibration hv slew).driven hv duties
  have hs' : IsOf c slew s' := hs.driven hv (List.replicate n duty)
  have hscale : s'.scale ≠ 0 := by
    rw [hs'.scale_eq]
    exact fun hzero => absurd (scale_toInt_pos hv) (by rw [hzero]; decide)
  refine ⟨if_pos (hs'.range_eq ▸ hv.range_nonempty), if_neg hscale, ?_⟩
  rw [← hs.driven_eq_iff hv duty n]
  refine ⟨Settled.actual_eq, fun hthere => ?_⟩
  have hreading := hs'.reading_near hv
  rw [hthere] at hreading
  refine ⟨hthere, hreading, ?_⟩
  have hposition : distance position (destination c duty) ≤ coarseness c position := hnear
  unfold distance at hreading hposition ⊢
  omega

/-- A steering servo that has been driven to the left for twenty cycles is driven to seven point
seven degrees to the right. Two positions share a drive signal there: it settles at seven point six
degrees after thirty-one cycles, which reads as eight. -/
theorem steering_servo_settles :
    let c := Calibration.steering
    let s := (ofCalibration c 7).driven (List.replicate 20 1000)
    let s' := s.driven (List.replicate 31 (mapToDrive 77 c.range c.output))
    c.IsValid ∧ (0 < c.range.max → c.output.center < c.output.max) ∧
      (c.range.min < 0 → c.output.min < c.output.center) ∧ c.range.contains 77 ∧
      s.actual = -140 ∧ s'.measured = 8 ∧ Settled c 77 76 s' := by
  intro c s s'
  have hv : c.IsValid := Calibration.validate_eq_ok_iff.mp rfl
  have hup : 0 < c.range.max → c.output.center < c.output.max := by decide
  have hdown : c.range.min < 0 → c.output.min < c.output.center := by decide
  have hp : c.range.contains 77 := by decide
  obtain ⟨a, -, hlow, hhigh, -, hsettles⟩ := servo_settles hv hup hdown hp
  obtain ⟨-, -, hsettled⟩ := hsettles 7 (List.replicate 20 1000) 31
  have hstart : s.actual = -140 := by decide +kernel
  have hactual : s'.actual = 76 := by decide +kernel
  -- wherever the place is, it is no farther than the position itself
  have hway : distance s.actual a ⌈/⌉ s.slewPerCycle.toInt.toNat ≤ 31 := by
    have hslew : s.slewPerCycle.toInt.toNat = 7 := by decide +kernel
    have hposition : (77 : Int32).toInt = 77 := rfl
    have hleft : (-140 : Int32).toInt = -140 := rfl
    rw [hslew, ceilDiv_le_iff_le_mul (by decide), hstart, distance, hleft]
    omega
  have hthere := hsettled.mpr hway
  obtain rfl : a = 76 := hthere.actual_eq.symm.trans hactual
  exact ⟨hv, hup, hdown, hp, hstart, by decide +kernel, hthere⟩

end Servo
end FrontZone
