import FrontZone.Calibration.Validity
import FrontZone.Machine.Servo
import FrontZone.Proofs.Machine.Operations
import FrontZone.Proofs.Servo
/-!
# The servo is exact in machine arithmetic

A servo holds five parts of which a cycle changes one, so that what makes its arithmetic exact
(`SoundServo`) is there from the start and stays. The reading (`measured_eq`) and one cycle
(`advance_eq`) are then exact wherever the servo stands, and so is a run of cycles (`drive_eq`).
Without it the machine goes wrong where `measured?` and `advance?` say so.
-/

namespace FrontZone

namespace Machine

/-- What a servo needs to be computed in words: a scale above zero, a range that holds some position
and a slew that is not negative. Its drive domain may be any, since neither half of it is divided by
where it is empty. -/
structure SoundServo (s : Servo) : Prop where
  scale_pos : 0 < s.scale.toInt
  range_nonempty : s.range.min ≤ s.range.max
  slew_nonneg : 0 ≤ s.slewPerCycle.toInt

variable {s : Servo}

/-! ## The reading -/

lemma roundDiv_eq {n scale : Int} (hn : n.natAbs ≤ 2147483648) (hscale : scale.natAbs ≤ 2147483648)
    (hne : scale ≠ 0) : roundDiv n scale = .ok (Servo.roundDiv n scale) := by
  have hhalf := natAbs_tdiv_le scale 2
  rw [roundDiv, div_of_natAbs (by decide) (by omega), ok_bind]
  unfold Servo.roundDiv
  dsimp only
  split
  · rw [add_of_natAbs (by omega), ok_bind, div_of_natAbs hne (by omega)]
  · rw [sub_of_natAbs (by omega), ok_bind, div_of_natAbs hne (by omega)]

/-- The reading is exact: rounding brings no number beyond the word of the position. -/
lemma measured_eq (h : 0 < s.scale.toInt) : measured s = .ok s.measured := by
  have hreading := Servo.toInt_measured h
  have hlo := s.measured.le_toInt
  have hhi := s.measured.toInt_lt
  rw [hreading] at hlo hhi
  rw [measured, roundDiv_eq (natAbs_toInt_le _) (natAbs_toInt_le _) h.ne', ok_bind,
    toInt32_of_mem (by omega) (by omega)]
  rfl

/-! ## The motion -/

lemma rawTarget_eq (range : PositionRange) (output : DriveDomain) (duty : UInt16) :
    rawTarget range output duty = .ok (Servo.rawTarget range output duty) := by
  have hduty := duty.toNat_lt
  have hcenter := output.center.toNat_lt
  have hmin := output.min.toNat_lt
  have hmax := output.max.toNat_lt
  have hlow := natAbs_toInt_le range.min
  have hhigh := natAbs_toInt_le range.max
  unfold rawTarget Servo.rawTarget
  dsimp only
  split
  · split
    · rfl
    · next hne =>
      generalize hupper : (if 0 ≤ range.max.toInt then range.max.toInt else 0) = upper
      have hreach : upper.natAbs ≤ 2147483648 := by
        rw [← hupper]
        split <;> omega
      obtain ⟨hmul, hdiv, -⟩ := mulDiv_eq (a := duty.toNat - output.center.toNat)
        (d := output.max.toNat - output.center.toNat) (by omega) hreach (by omega)
      rw [sub_of_natAbs (by omega), ok_bind, hmul, ok_bind, sub_of_natAbs (by omega), ok_bind, hdiv]
  -- below the center the reach is that of the lower end, with the sign taken off first
  · split
    · rfl
    · next hne =>
      generalize hlower : (if range.min.toInt ≤ 0 then range.min.toInt else 0) = lower
      have hreach : (-lower).natAbs ≤ 2147483648 := by
        rw [← hlower]
        split <;> omega
      obtain ⟨hmul, hdiv, -⟩ := mulDiv_eq (a := duty.toNat - output.center.toNat)
        (d := output.center.toNat - output.min.toNat) (by omega) hreach (by omega)
      rw [sub_of_natAbs (by omega), ok_bind, neg_of_natAbs (by omega), ok_bind, hmul, ok_bind,
        sub_of_natAbs (by omega), ok_bind, hdiv]

/-- The position asked for is a position of the range, so the cast does not change it. -/
lemma target_eq (h : s.range.min.toInt ≤ s.range.max.toInt) (duty : UInt16) :
    target s duty = .ok (Int32.ofInt (s.target duty)) ∧
      (Int32.ofInt (s.target duty)).toInt = s.target duty := by
  have hlow : s.range.min.toInt ≤ s.target duty := le_clampInt h
  have hhigh : s.target duty ≤ s.range.max.toInt := clampInt_le h
  have hmin := s.range.min.le_toInt
  have hmax := s.range.max.toInt_lt
  constructor
  · rw [target, rawTarget_eq, ok_bind, clamp_of_le h, ok_bind]
    exact toInt32_of_mem (n := s.target duty) (by omega) (by omega)
  · exact toInt_ofInt_of_mem (by omega) (by omega)

/-- The servo moves to a place between two positions, which a word can hold. -/
lemma advance_eq (hrange : s.range.min ≤ s.range.max) (hslew : 0 ≤ s.slewPerCycle.toInt)
    (duty : UInt16) : advance s duty = .ok (s.advance duty) := by
  obtain ⟨htarget, htoInt⟩ := target_eq (Int32.le_iff_toInt_le.mp hrange) duty
  rw [advance, htarget, ok_bind, limitedMove_eq _ _ _ hslew, ok_bind, htoInt, clampToRange,
    if_pos hrange]
  rfl

/-! ## Undefined results -/

/-- On a scale that is not negative a servo has a reading exactly if the machine finds one. -/
theorem measured?_eq (h : 0 ≤ s.scale.toInt) : s.measured? = (measured s).toOption := by
  by_cases hzero : s.scale = 0
  · -- a scale of zero is noticed by the last division, after a sum that fits
    have hhalf : div 0 2 = .ok 0 := rfl
    rw [Servo.measured?, if_pos hzero, measured, hzero, Int32.toInt_zero, roundDiv, hhalf, ok_bind]
    have hactual := natAbs_toInt_le s.actual
    split
    · rw [add_of_natAbs (by omega)]
      rfl
    · rw [sub_of_natAbs (by omega)]
      rfl
  · have hpos : 0 < s.scale.toInt := by
      rw [← Int32.toInt_inj, Int32.toInt_zero] at hzero
      omega
    rw [Servo.measured?, if_neg hzero, measured_eq hpos]
    rfl

/-- A servo moves exactly if the machine finds no empty bounds on the way. -/
theorem advance?_eq (h : 0 ≤ s.slewPerCycle.toInt) (duty : UInt16) :
    s.advance? duty = (advance s duty).toOption := by
  unfold Servo.advance?
  split
  · next hrange =>
    rw [advance_eq hrange h]
    rfl
  · next hrange =>
    rw [Int32.le_iff_toInt_le] at hrange
    rw [advance, target, rawTarget_eq, ok_bind, clamp, if_neg hrange]
    rfl

/-! ## Runs -/

/-- A cycle moves the servo and changes nothing about it. -/
lemma sound_advance (h : SoundServo s) (duty : UInt16) : SoundServo (s.advance duty) := { h with }

/-- Every servo of a valid calibration is sound, whatever slew it is asked for: it moves by at least
one unit a cycle. -/
lemma sound_ofCalibration {c : Calibration} (hv : c.IsValid) (slew : Int32) :
    SoundServo (.ofCalibration c slew) where
  scale_pos := Int32.lt_iff_toInt_lt.mp hv.scale_pos
  range_nonempty := hv.range_nonempty
  slew_nonneg := by
    show 0 ≤ (max slew 1).toInt
    rw [toInt_max]
    exact le_max_of_le_right (by decide)

/-- A servo that is driven through any duties is where exact arithmetic says, and stays sound. -/
theorem drive_eq (h : SoundServo s) (duties : List UInt16) :
    drive s duties = .ok (duties.foldl Servo.advance s) ∧
      SoundServo (duties.foldl Servo.advance s) :=
  foldlM_exact SoundServo (fun _ duty hs => advance_eq hs.range_nonempty hs.slew_nonneg duty)
    (fun _ duty hs => sound_advance hs duty) h duties

end Machine

end FrontZone
