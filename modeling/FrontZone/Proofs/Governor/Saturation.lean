import FrontZone.Proofs.Governor.Cycle
import FrontZone.Proofs.Motion
/-!
# Where saturation shows

Commands and sensor readings are multiplied by the scale before they are judged, and a product
beyond the word is held at its end. `contains_saturate_iff` and `lt_distance_saturate_iff` say what
that does to the two verdicts: the range check admits a product beyond the word if the range reaches
as far as the word, and the plausibility check takes two products for close if one of them lies
beyond an end of the word and the other is not far from that end. The main statement adds which
calibrations keep clear of both.
-/

namespace FrontZone

/-! ## Numbers held to the word -/

/-- An exact number is one of a range, ends included. -/
def PositionRange.Spans (r : PositionRange) (n : Int) : Prop :=
  r.min.toInt ≤ n ∧ n ≤ r.max.toInt

/-- A number lies beyond the word on a side on which the range reaches as far as the word. -/
def PositionRange.EndsShortOf (r : PositionRange) (n : Int) : Prop :=
  r.max.toInt = 2147483647 ∧ 2147483647 < n ∨ r.min.toInt = -2147483648 ∧ n < -2147483648

/-- One of two numbers lies beyond an end of the word, and the other does as well or is within
`threshold` of that end. -/
def Squeezed (threshold a b : Int) : Prop :=
  2147483647 < max a b ∧ 2147483647 - threshold ≤ min a b ∨
    min a b < -2147483648 ∧ max a b ≤ -2147483648 + threshold

instance (r : PositionRange) (n : Int) : Decidable (r.Spans n) :=
  inferInstanceAs (Decidable (_ ∧ _))

/-- A number of the word is kept as it is. -/
lemma toInt_saturate_of_mem {n : Int} (hlow : -2147483648 ≤ n) (hhigh : n ≤ 2147483647) :
    (saturate n).toInt = n := by
  rw [toInt_saturate, clampInt_eq_self hlow hhigh]

lemma toInt_saturate_of_gt {n : Int} (h : 2147483647 < n) : (saturate n).toInt = 2147483647 := by
  rw [toInt_saturate, clampInt, if_neg (by omega), if_pos h]

lemma toInt_saturate_of_lt {n : Int} (h : n < -2147483648) :
    (saturate n).toInt = -2147483648 := by
  rw [toInt_saturate, clampInt, if_pos h]

/-- Held to the word, a number is in the range if it was before or comes to lie on the range's own
end. -/
theorem PositionRange.contains_saturate_iff {r : PositionRange} {n : Int} :
    r.contains (saturate n) ↔ r.Spans n ∨ r.EndsShortOf n := by
  have hmin := And.intro r.min.le_toInt r.min.toInt_lt
  have hmax := And.intro r.max.le_toInt r.max.toInt_lt
  rw [contains_iff]
  unfold Spans EndsShortOf
  obtain hlow | hword | hhigh :
      n < -2147483648 ∨ (-2147483648 ≤ n ∧ n ≤ 2147483647) ∨ 2147483647 < n := by omega
  · rw [toInt_saturate_of_lt hlow]
    omega
  · rw [toInt_saturate_of_mem hword.1 hword.2]
    omega
  · rw [toInt_saturate_of_gt hhigh]
    omega

lemma PositionRange.not_spans_of_endsShortOf {r : PositionRange} {n : Int}
    (h : r.EndsShortOf n) : ¬ r.Spans n := by
  unfold EndsShortOf at h
  unfold Spans
  omega

/-- Held to the word, two numbers are far apart if they were before and are not squeezed. -/
theorem lt_distance_saturate_iff {threshold : Int} (hnonneg : 0 ≤ threshold)
    (hword : threshold ≤ 2147483647) (a b : Int) :
    threshold < distance (saturate a) (saturate b) ↔
      threshold < (a - b).natAbs ∧ ¬ Squeezed threshold a b := by
  unfold distance Squeezed
  rw [toInt_saturate, toInt_saturate]
  unfold clampInt
  -- each number lies below, in or above the word
  split_ifs <;> omega

namespace Calibration

variable {c : Calibration}

/-! ## The two verdicts -/

/-- A value in signal units as internal units, in exact integers. -/
def exactInternal (c : Calibration) (signal : Int32) : Int :=
  signal.toInt * c.signalScale.toInt

/-- Two values in signal units are farther apart than the plausibility threshold. -/
def ExactlyFar (c : Calibration) (a b : Int32) : Prop :=
  c.plausibilityThreshold.toInt < (c.exactInternal a - c.exactInternal b).natAbs

instance (c : Calibration) (a b : Int32) : Decidable (c.ExactlyFar a b) :=
  inferInstanceAs (Decidable (_ < _))

/-- A command and a reading, both in signal units, are judged as they would be in exact integers:
the command is accepted if it is in range, and an accepted command is found far from the reading if
it is. -/
structure JudgesExactly (c : Calibration) (command reading : Int32) : Prop where
  accepts_iff : (c.range.accept (c.toInternal command)).isSome ↔
    c.range.Spans (c.exactInternal command)
  far_iff : (c.range.accept (c.toInternal command)).isSome →
    (Governor.Far c (c.toInternal command) (c.toInternal reading) ↔ c.ExactlyFar command reading)

/-- The range ends before the word does, and every command in it is farther from both ends of the
word than the plausibility threshold. -/
structure StaysClear (c : Calibration) : Prop where
  min_gt : -2147483648 < c.range.min.toInt
  max_lt : c.range.max.toInt < 2147483647
  far_from_ends : ∀ command, c.range.Spans (c.exactInternal command) →
    -2147483648 + c.plausibilityThreshold.toInt < c.exactInternal command ∧
      c.exactInternal command < 2147483647 - c.plausibilityThreshold.toInt

/-- What the range check makes of a command. -/
lemma accepts_iff {command : Int32} :
    (c.range.accept (c.toInternal command)).isSome ↔
      c.range.Spans (c.exactInternal command) ∨ c.range.EndsShortOf (c.exactInternal command) :=
  Governor.isSome_accept_iff.trans PositionRange.contains_saturate_iff

/-- What the plausibility check makes of a command and a reading. -/
lemma far_toInternal_iff (hv : c.IsValid) {command reading : Int32} :
    Governor.Far c (c.toInternal command) (c.toInternal reading) ↔
      c.ExactlyFar command reading ∧ ¬ Squeezed c.plausibilityThreshold.toInt
        (c.exactInternal command) (c.exactInternal reading) :=
  lt_distance_saturate_iff (Governor.threshold_toInt_nonneg hv)
    (Int.le_of_lt_add_one c.plausibilityThreshold.toInt_lt) _ _

/-- A command and a reading are misjudged where the range does not end before the word and where
saturation brings the two together. -/
theorem judgesExactly_iff (hv : c.IsValid) {command reading : Int32} :
    c.JudgesExactly command reading ↔
      ¬ c.range.EndsShortOf (c.exactInternal command) ∧
        (c.range.Spans (c.exactInternal command) → c.ExactlyFar command reading →
          ¬ Squeezed c.plausibilityThreshold.toInt (c.exactInternal command)
            (c.exactInternal reading)) := by
  constructor
  · intro h
    refine ⟨fun hshort => ?_, fun hspan hfar => ?_⟩
    · have hspan := h.accepts_iff.mp (accepts_iff.mpr (Or.inr hshort))
      exact PositionRange.not_spans_of_endsShortOf hshort hspan
    · have haccepted := accepts_iff.mpr (Or.inl hspan)
      exact ((far_toInternal_iff hv).mp ((h.far_iff haccepted).mpr hfar)).2
  · rintro ⟨hshort, hapart⟩
    have haccepts : (c.range.accept (c.toInternal command)).isSome ↔
        c.range.Spans (c.exactInternal command) := accepts_iff.trans (or_iff_left hshort)
    refine ⟨haccepts, fun haccepted => (far_toInternal_iff hv).trans ?_⟩
    exact and_iff_left_iff_imp.mpr (hapart (haccepts.mp haccepted))

/-! ## Calibrations without a misjudgement -/

/-- In signal units that are internal units nothing leaves the word. -/
lemma exactInternal_of_scale_one (hscale : c.signalScale = 1) (signal : Int32) :
    c.exactInternal signal = signal.toInt := by
  rw [exactInternal, hscale]
  exact Int.mul_one _

/-- Any other scale carries the ends of the word far beyond it. -/
lemma exactInternal_ends (hv : c.IsValid) (hscale : c.signalScale ≠ 1) :
    2 * 2147483647 ≤ c.exactInternal Int32.maxValue ∧
      c.exactInternal Int32.minValue ≤ 2 * -2147483648 := by
  have hpos := hv.scale_pos
  rw [Int32.lt_iff_toInt_lt, Int32.toInt_zero] at hpos
  have hone : c.signalScale.toInt ≠ 1 := fun h => hscale (Int32.toInt_inj.mp h)
  show 2 * 2147483647 ≤ 2147483647 * c.signalScale.toInt ∧
    -2147483648 * c.signalScale.toInt ≤ 2 * -2147483648
  omega

lemma judgesExactly_of_scale_one (hv : c.IsValid) (hscale : c.signalScale = 1)
    (command reading : Int32) : c.JudgesExactly command reading := by
  have hcommand := And.intro command.le_toInt command.toInt_lt
  have hreading := And.intro reading.le_toInt reading.toInt_lt
  have hthreshold := Governor.threshold_toInt_nonneg hv
  rw [judgesExactly_iff hv, exactInternal_of_scale_one hscale, exactInternal_of_scale_one hscale]
  refine ⟨?_, fun _ _ => ?_⟩
  · unfold PositionRange.EndsShortOf
    omega
  · unfold Squeezed
    omega

lemma StaysClear.judgesExactly (hv : c.IsValid) (h : c.StaysClear) (command reading : Int32) :
    c.JudgesExactly command reading := by
  have hmin := h.min_gt
  have hmax := h.max_lt
  rw [judgesExactly_iff hv]
  refine ⟨?_, fun hspan _ => ?_⟩
  · unfold PositionRange.EndsShortOf
    omega
  · -- only the reading can lie beyond the word, and then the command is too far from that end
    have hclear := h.far_from_ends command hspan
    have hthreshold := Governor.threshold_toInt_nonneg hv
    unfold Squeezed
    omega

/-- With another scale than one, the ends of the word are misjudged: as commands where the range
reaches them, and as readings where a command comes close to them. -/
lemma staysClear_of_judgesExactly (hv : c.IsValid) (hscale : c.signalScale ≠ 1)
    (h : ∀ command reading, c.JudgesExactly command reading) : c.StaysClear := by
  obtain ⟨hhigh, hlow⟩ := exactInternal_ends hv hscale
  have hmin : -2147483648 < c.range.min.toInt := by
    have hword := c.range.min.le_toInt
    obtain ⟨hshort, -⟩ := (judgesExactly_iff hv).mp (h Int32.minValue 0)
    unfold PositionRange.EndsShortOf at hshort
    omega
  have hmax : c.range.max.toInt < 2147483647 := by
    have hword := c.range.max.toInt_lt
    obtain ⟨hshort, -⟩ := (judgesExactly_iff hv).mp (h Int32.maxValue 0)
    unfold PositionRange.EndsShortOf at hshort
    omega
  refine ⟨hmin, hmax, fun command hspan => ?_⟩
  -- a reading at either end is farther from the command than any threshold
  have hthreshold := c.plausibilityThreshold.toInt_lt
  have hbelow := ((judgesExactly_iff hv).mp (h command Int32.minValue)).2 hspan
  have habove := ((judgesExactly_iff hv).mp (h command Int32.maxValue)).2 hspan
  unfold ExactlyFar Squeezed at hbelow habove
  unfold PositionRange.Spans at hspan
  omega

/-- A range that stays inside the word when it is widened by the threshold stays clear. -/
lemma staysClear_of_margin (hv : c.IsValid)
    (hmin : -2147483648 + c.plausibilityThreshold.toInt < c.range.min.toInt)
    (hmax : c.range.max.toInt < 2147483647 - c.plausibilityThreshold.toInt) : c.StaysClear := by
  have hthreshold := Governor.threshold_toInt_nonneg hv
  refine ⟨by omega, by omega, fun command hspan => ?_⟩
  unfold PositionRange.Spans at hspan
  omega

/-! ## Verdicts -/

/-- A valid calibration accepts a command exactly if its exact value is in range or lies beyond the
word on a side on which the range reaches as far; it finds a command far from a reading, and counts
the disagreement, exactly if their exact values are farther apart than the threshold and saturation
does not bring them together. Every command and reading is judged as in exact integers exactly if
signal units are internal units or the range and its commands stay clear of the ends of the word. -/
theorem verdicts_exact_iff (hv : c.IsValid) :
    (∀ command, (c.range.accept (c.toInternal command)).isSome ↔
        c.range.Spans (c.exactInternal command) ∨
          c.range.EndsShortOf (c.exactInternal command)) ∧
      (∀ command reading,
        (Governor.Far c (c.toInternal command) (c.toInternal reading) ↔
          c.ExactlyFar command reading ∧ ¬ Squeezed c.plausibilityThreshold.toInt
            (c.exactInternal command) (c.exactInternal reading)) ∧
        ∀ p : Plausibility,
          p.check (c.toInternal command) (c.toInternal reading) c.plausibilityThreshold =
            if Governor.Far c (c.toInternal command) (c.toInternal reading) then
              ⟨countUp16 p.count⟩
            else ⟨0⟩) ∧
      ((∀ command reading, c.JudgesExactly command reading) ↔
        c.signalScale = 1 ∨ c.StaysClear) := by
  refine ⟨fun command => accepts_iff, fun command reading => ?_, fun h => ?_, ?_⟩
  · exact ⟨far_toInternal_iff hv, fun p => Governor.check_eq hv p _ _⟩
  · by_cases hscale : c.signalScale = 1
    · exact Or.inl hscale
    · exact Or.inr (staysClear_of_judgesExactly hv hscale h)
  · rintro (hscale | hclear)
    · exact judgesExactly_of_scale_one hv hscale
    · exact hclear.judgesExactly hv

/-- Steering stays clear of the ends of the word. A reading that saturates there is found far from
the outermost command, and as a command it is refused. -/
theorem steering_verdicts_exact :
    let c := Calibration.steering
    c.IsValid ∧ c.StaysClear ∧ (∀ command reading, c.JudgesExactly command reading) ∧
      c.exactInternal 2147483647 = 21474836470 ∧
      ¬ (c.range.accept (c.toInternal 2147483647)).isSome ∧
      ∀ p : Plausibility, p.check (c.toInternal 45) (c.toInternal 2147483647) 50 =
        ⟨countUp16 p.count⟩ := by
  intro c
  have hv : c.IsValid := validate_eq_ok_iff.mp rfl
  have hclear : c.StaysClear := staysClear_of_margin hv (by decide) (by decide)
  obtain ⟨-, hfar, hexact⟩ := verdicts_exact_iff hv
  have hjudges := hexact.mpr (Or.inr hclear)
  have haccepted : (c.range.accept (c.toInternal 45)).isSome := by decide
  have hapart : Governor.Far c (c.toInternal 45) (c.toInternal 2147483647) :=
    ((hjudges 45 2147483647).far_iff haccepted).mpr (by decide)
  refine ⟨hv, hclear, hjudges, by decide, ?_, fun p => ?_⟩
  · rw [(hjudges 2147483647 0).accepts_iff]
    decide
  · have hcheck := (hfar 45 2147483647).2 p
    rwa [if_pos hapart] at hcheck

/-- A steering range that reaches the end of the word admits a command of three billion tenths of a
degree, and a reading of as many is not found far from a command close to that end. -/
theorem misjudged_at_word_end :
    let c : Calibration := { Calibration.steering with range := ⟨-450, 2147483647⟩ }
    c.IsValid ∧
      ((c.range.accept (c.toInternal 300000000)).isSome ∧
        ¬ c.range.Spans (c.exactInternal 300000000)) ∧
      ((c.range.accept (c.toInternal 214748364)).isSome ∧
        c.ExactlyFar 214748364 300000000 ∧
        ¬ Governor.Far c (c.toInternal 214748364) (c.toInternal 300000000)) := by
  refine ⟨validate_eq_ok_iff.mp rfl, by decide, by decide⟩

end Calibration
end FrontZone
