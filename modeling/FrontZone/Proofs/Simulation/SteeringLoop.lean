import FrontZone.Proofs.DriverModel
import FrontZone.Proofs.Governor.QuietCycle
import FrontZone.Proofs.Servo
import FrontZone.Simulation
/-!
# The steering loop

Driver, governor and servo of the steering make a loop: every fourth cycle the driver's value moves
by a degree, in every other cycle the command is a degree nearer to zero, the governor follows the
command by three tenths of a degree a cycle, and the servo follows the governor at the same rate.
`Near` says where the three are to each other in each of the four phases, and `near_next` that they
stay there, whatever the driver's target. Numbers are exact, in tenths of a degree but for the
driver's.
-/

namespace FrontZone
namespace SteeringLoop

/-! ## One cycle -/

/-- The governor moves from `p` to `p'` toward the target, and the servo from `a` to `a'`, sent to a
place between zero and `p'` and short of it by one at most. -/
structure Moves (target p a p' a' : Int) : Prop where
  position_eq : p' = slewLimited p target 0 3
  actual_eq : ∃ asked, (0 ≤ p' → 0 ≤ asked ∧ p' - 1 ≤ asked ∧ asked ≤ p') ∧
    (p' ≤ 0 → asked ≤ 0 ∧ p' ≤ asked ∧ asked ≤ p' + 1) ∧
    a' = a + clampInt (-3) 3 (asked - a)

variable {target p a p' a' : Int}

/-- The loop does not know left from right. -/
lemma Moves.neg (h : Moves target p a p' a') : Moves (-target) (-p) (-a) (-p') (-a') := by
  obtain ⟨rfl, asked, hup, hdown, rfl⟩ := h
  have hclamp (n : Int) : clampInt (-3) 3 (-n) = -clampInt (-3) 3 n := by
    unfold clampInt
    split <;> split <;> (try split) <;> omega
  have hslew : slewLimited (-p) (-target) 0 3 = -slewLimited p target 0 3 := by
    unfold slewLimited
    rw [show -target - -p = -(target - p) by omega, hclamp, Int.sub_zero, Int.sub_zero,
      Int.sub_zero, Int.sub_zero, Int.natAbs_neg, Int.natAbs_neg]
    split <;> omega
  refine ⟨hslew.symm, -asked, fun h => ?_, fun h => ?_, ?_⟩
  · have hasked := hdown (by omega)
    omega
  · have hasked := hup (by omega)
    omega
  · rw [show -asked - -a = -(asked - a) by omega, hclamp]
    omega

/-- On the right the moves are those of minima and maxima. -/
lemma Moves.of_nonneg (h : Moves target p a p' a') (hp : 0 ≤ p) (ht : 0 ≤ target) :
    p' = min target (p + 3) ∧
      ∃ asked, 0 ≤ asked ∧ p' - 1 ≤ asked ∧ asked ≤ p' ∧
        a' = max (a - 3) (min (a + 3) asked) := by
  obtain ⟨hposition, asked, hup, -, hactual⟩ := h
  have hmove : p' = min target (p + 3) := by
    rw [hposition]
    unfold slewLimited clampInt
    split <;> [skip; split <;> [skip; split]] <;> omega
  obtain ⟨hnonneg, hshort, hle⟩ := hup (by omega)
  refine ⟨hmove, asked, hnonneg, hshort, hle, ?_⟩
  rw [hactual]
  unfold clampInt
  split <;> [skip; split] <;> omega

/-! ## The four phases -/

/-- How far position and servo lag behind a driver's value to the right, `t` in tenths, in each
phase since it last moved. -/
def Lag (t p a : Int) : Nat → Prop
  | 0 => t - 17 ≤ p ∧ p ≤ t ∧ p - 1 ≤ a ∧ a ≤ p
  | 1 => t - 14 ≤ p ∧ p ≤ t - 10 ∧ p - 1 ≤ a ∧ a ≤ p + 7
  | 2 => t - 11 ≤ p ∧ p ≤ t - 7 ∧ p - 1 ≤ a ∧ a ≤ p + 1
  | _ => p = t - 10 ∧ p - 1 ≤ a ∧ a ≤ p + 1

/-- Where position and servo are in a phase to a driver's value, in degrees. -/
def Near (phase : Nat) (deg p a : Int) : Prop :=
  (0 < deg → 0 ≤ p ∧ Lag (10 * deg) p a phase) ∧
    (deg < 0 → 0 ≤ -p ∧ Lag (10 * -deg) (-p) (-a) phase) ∧
    (deg = 0 → if phase % 2 = 0 then p = 0 ∧ a = 0 else p = 3 ∧ 2 ≤ a ∧ a ≤ 3)

/-- The command that a driver's value amounts to in a phase, in tenths of a degree. -/
def commandAt (phase : Nat) (deg : Int) : Int :=
  10 * nudged (decide (phase % 2 = 1)) deg

section Values
variable {n : Nat} {deg : Int}

lemma near_of_pos (hdeg : 0 < deg) (h : 0 ≤ p ∧ Lag (10 * deg) p a n) : Near n deg p a :=
  ⟨fun _ => h, fun hneg => absurd hdeg (by omega), fun hzero => absurd hdeg (by omega)⟩

lemma near_of_neg (hdeg : deg < 0) (h : 0 ≤ -p ∧ Lag (10 * -deg) (-p) (-a) n) : Near n deg p a :=
  ⟨fun hpos => absurd hdeg (by omega), fun _ => h, fun hzero => absurd hdeg (by omega)⟩

lemma near_zero (h : if n % 2 = 0 then p = 0 ∧ a = 0 else p = 3 ∧ 2 ≤ a ∧ a ≤ 3) :
    Near n 0 p a :=
  ⟨fun hpos => absurd hpos (by omega), fun hneg => absurd hneg (by omega), fun _ => h⟩

lemma commandAt_of_pos (hdeg : 0 < deg) :
    commandAt n deg = if n % 2 = 1 then 10 * deg - 10 else 10 * deg := by
  unfold commandAt nudged
  by_cases hodd : n % 2 = 1
  · simp only [hodd, decide_true, if_true, if_pos hdeg]
    omega
  · simp only [hodd, decide_false, if_false, Bool.false_eq_true]

lemma commandAt_of_neg (hdeg : deg < 0) :
    commandAt n deg = -(if n % 2 = 1 then 10 * -deg - 10 else 10 * -deg) := by
  unfold commandAt nudged
  by_cases hodd : n % 2 = 1
  · simp only [hodd, decide_true, if_true, if_neg (show ¬ 0 < deg by omega)]
    omega
  · simp only [hodd, decide_false, if_false, Bool.false_eq_true]
    omega

lemma commandAt_zero : commandAt n 0 = if n % 2 = 1 then 10 else 0 := by
  unfold commandAt nudged
  by_cases hodd : n % 2 = 1 <;> simp [hodd]

end Values

section Phases
variable {t t' : Int} {n : Nat}

/-- To the right, the lag in one phase follows from that in the phase before. -/
lemma lag_next (ht : 10 ≤ t) (hp : 0 ≤ p) (hn : n < 3) (h : Lag t p a n)
    (hmoves : Moves (if (n + 1) % 2 = 1 then t - 10 else t) p a p' a') :
    0 ≤ p' ∧ Lag t p' a' (n + 1) := by
  obtain ⟨hposition, asked, hasked, hshort, hle, hactual⟩ :=
    hmoves.of_nonneg hp (by split <;> omega)
  -- the command is a degree nearer to zero in the odd phases
  rcases n with _ | _ | _ | n
  · rw [if_pos (by omega)] at hposition
    simp only [Lag, Nat.reduceAdd] at h ⊢
    omega
  · rw [if_neg (by omega)] at hposition
    simp only [Lag, Nat.reduceAdd] at h ⊢
    omega
  · rw [if_pos (by omega)] at hposition
    simp only [Lag, Nat.reduceAdd] at h ⊢
    omega
  · omega

/-- When the driver's value moves and stays to the right, by a degree at most. -/
lemma lag_move (hp : 0 ≤ p) (h : Lag t p a 3) (ht' : 10 ≤ t')
    (hstep : t - 10 ≤ t' ∧ t' ≤ t + 10) (hmoves : Moves t' p a p' a') :
    0 ≤ p' ∧ Lag t' p' a' 0 := by
  obtain ⟨hposition, asked, hasked, hshort, hle, hactual⟩ := hmoves.of_nonneg hp (by omega)
  simp only [Lag] at h ⊢
  omega

/-- When the driver's value comes to zero from the right. -/
lemma lag_stop (hp : 0 ≤ p) (h : Lag 10 p a 3) (hmoves : Moves 0 p a p' a') : p' = 0 ∧ a' = 0 := by
  simp only [Lag] at h
  obtain ⟨hposition, asked, hasked, hshort, hle, hactual⟩ := hmoves.of_nonneg hp le_rfl
  omega

/-- While the driver's value is zero, the nudges are followed and undone. -/
lemma rest_next (h : if n % 2 = 0 then p = 0 ∧ a = 0 else p = 3 ∧ 2 ≤ a ∧ a ≤ 3)
    (hmoves : Moves (if (n + 1) % 2 = 1 then 10 else 0) p a p' a') :
    if (n + 1) % 2 = 0 then p' = 0 ∧ a' = 0 else p' = 3 ∧ 2 ≤ a' ∧ a' ≤ 3 := by
  obtain ⟨hposition, asked, hasked, hshort, hle, hactual⟩ :=
    hmoves.of_nonneg (by split at h <;> omega) (by split <;> omega)
  rcases Nat.mod_two_eq_zero_or_one n with heven | hodd
  · rw [if_pos heven] at h
    rw [if_pos (by omega)] at hposition
    rw [if_neg (by omega)]
    omega
  · rw [if_neg (by omega)] at h
    rw [if_neg (by omega)] at hposition
    rw [if_pos (by omega)]
    omega

/-- When the driver's value leaves zero to the right. -/
lemma lag_start (hp : p = 3) (ha : 2 ≤ a ∧ a ≤ 3) (hmoves : Moves 10 p a p' a') :
    0 ≤ p' ∧ Lag 10 p' a' 0 := by
  obtain ⟨hposition, asked, hasked, hshort, hle, hactual⟩ :=
    hmoves.of_nonneg (by omega) (by omega)
  simp only [Lag]
  omega

/-- When the driver's value leaves zero to the left, against the last nudge. -/
lemma lag_start_neg (hp : p = 3) (ha : 2 ≤ a ∧ a ≤ 3) (hmoves : Moves (-10) p a p' a') :
    0 ≤ -p' ∧ Lag 10 (-p') (-a') 0 := by
  subst hp
  obtain ⟨hposition, asked, hup, hdown, hactual⟩ := hmoves
  obtain rfl : p' = 0 := hposition
  obtain rfl : asked = 0 := by omega
  rw [clampInt_eq_self (by omega) (by omega)] at hactual
  simp only [Lag]
  omega

end Phases

/-- In a cycle in which the driver's value does not move. -/
lemma near_hold {n : Nat} {deg : Int} (hn : n < 3) (h : Near n deg p a)
    (hmoves : Moves (commandAt (n + 1) deg) p a p' a') : Near (n + 1) deg p' a' := by
  rcases lt_trichotomy deg 0 with hneg | rfl | hpos
  -- to the left, the mirrored loop lags as one to the right
  · obtain ⟨hp, hlag⟩ := h.2.1 hneg
    rw [commandAt_of_neg hneg] at hmoves
    have hmirrored := hmoves.neg
    rw [Int.neg_neg] at hmirrored
    exact near_of_neg hneg (lag_next (by omega) hp hn hlag hmirrored)
  · rw [commandAt_zero] at hmoves
    exact near_zero (rest_next (h.2.2 rfl) hmoves)
  · obtain ⟨hp, hlag⟩ := h.1 hpos
    rw [commandAt_of_pos hpos] at hmoves
    exact near_of_pos hpos (lag_next (by omega) hp hn hlag hmoves)

/-- In a cycle in which the driver's value may move. -/
lemma near_move {deg deg' : Int} (hstep : deg - 1 ≤ deg' ∧ deg' ≤ deg + 1) (h : Near 3 deg p a)
    (hmoves : Moves (10 * deg') p a p' a') : Near 0 deg' p' a' := by
  rcases lt_trichotomy deg 0 with hneg | rfl | hpos
  · obtain ⟨hp, hlag⟩ := h.2.1 hneg
    have hmirrored := hmoves.neg
    rw [← Int.mul_neg] at hmirrored
    rcases Int.lt_or_eq_of_le (show deg' ≤ 0 by omega) with hneg' | rfl
    · exact near_of_neg hneg' (lag_move hp hlag (by omega) (by omega) hmirrored)
    · obtain rfl : deg = -1 := by omega
      obtain ⟨hp', ha'⟩ := lag_stop hp hlag hmirrored
      exact near_zero (by simp only [Nat.zero_mod, if_true]; omega)
  -- at zero, the last nudge was to the right, so the sides are not alike
  · have hrest : p = 3 ∧ 2 ≤ a ∧ a ≤ 3 := h.2.2 rfl
    rcases lt_trichotomy deg' 0 with hneg' | rfl | hpos'
    · obtain rfl : deg' = -1 := by omega
      exact near_of_neg hneg' (lag_start_neg hrest.1 hrest.2 hmoves)
    · exact near_zero (rest_next (n := 3) hrest hmoves)
    · obtain rfl : deg' = 1 := by omega
      exact near_of_pos hpos' (lag_start hrest.1 hrest.2 hmoves)
  · obtain ⟨hp, hlag⟩ := h.1 hpos
    rcases Int.lt_or_eq_of_le (show 0 ≤ deg' by omega) with hpos' | rfl
    · exact near_of_pos hpos' (lag_move hp hlag (by omega) (by omega) hmoves)
    · obtain rfl : deg = 1 := by omega
      exact near_zero (lag_stop hp hlag hmoves)

/-- One cycle takes the loop from one phase to the next; only from the last phase to the first the
driver's value moves, by a degree at most. -/
theorem near_next {n : Nat} {deg deg' : Int} (hn : n < 4) (hkept : n ≠ 3 → deg' = deg)
    (hstep : deg - 1 ≤ deg' ∧ deg' ≤ deg + 1) (h : Near n deg p a)
    (hmoves : Moves (commandAt ((n + 1) % 4) deg') p a p' a') : Near ((n + 1) % 4) deg' p' a' := by
  by_cases hlast : n = 3
  · subst hlast
    exact near_move hstep h hmoves
  · obtain rfl := hkept hlast
    rw [Nat.mod_eq_of_lt (by omega)] at hmoves ⊢
    exact near_hold (by omega) h hmoves

/-! ## What the loop keeps -/

/-- The lag of a servo is less than two degrees. -/
lemma lag_bounds {t : Int} {n : Nat} (h : Lag t p a n) :
    p ≤ t ∧ p - 1 ≤ a ∧ a ≤ t ∧ t - 18 ≤ a := by
  rcases n with _ | _ | _ | n <;> simp only [Lag] at h <;> omega

/-- The servo is less than two degrees from the driver's value. -/
lemma near_servo {n : Nat} {deg : Int} (h : Near n deg p a) :
    10 * deg - 18 ≤ a ∧ a ≤ 10 * deg + 18 := by
  rcases lt_trichotomy deg 0 with hneg | rfl | hpos
  · have hlag := lag_bounds (h.2.1 hneg).2
    omega
  · have hrest := h.2.2 rfl
    split at hrest <;> omega
  · have hlag := lag_bounds (h.1 hpos).2
    omega

/-- Position and servo stay in a range that the driver's value stays in. -/
lemma near_range {n : Nat} {deg bound : Int} (h : Near n deg p a) (hbound : 10 ≤ bound)
    (hlow : -bound ≤ 10 * deg) (hhigh : 10 * deg ≤ bound) :
    (-bound ≤ p ∧ p ≤ bound) ∧ -bound ≤ a ∧ a ≤ bound := by
  rcases lt_trichotomy deg 0 with hneg | rfl | hpos
  · obtain ⟨hp, hlag⟩ := h.2.1 hneg
    have hbounds := lag_bounds hlag
    omega
  · have hrest := h.2.2 rfl
    split at hrest <;> omega
  · obtain ⟨hp, hlag⟩ := h.1 hpos
    have hbounds := lag_bounds hlag
    omega

/-- The next command is never four degrees from where the servo is. -/
lemma near_command {n : Nat} {deg deg' : Int} (n' : Nat) (h : Near n deg p a)
    (hstep : deg - 1 ≤ deg' ∧ deg' ≤ deg + 1) :
    commandAt n' deg' - 38 ≤ a ∧ a ≤ commandAt n' deg' + 38 := by
  have hservo := near_servo h
  unfold commandAt nudged
  split <;> [split; skip] <;> omega

/-! ## One cycle in words -/

/-- The servo of the steering at some position. -/
def servoAt (actual : Int32) : Servo :=
  { Servo.ofCalibration .steering servoSlewPerCycle with actual }

/-- Hardware whose sensor measures the servo at a position, without faults. -/
structure Measures (rig : Rig) (actual : Int32) : Prop where
  feedback_eq : rig.feedback = .servo (servoAt actual)
  disturbance_eq : rig.disturbance = {}

section Words
variable {rig : Rig} {actual position command : Int32} {n : Nat} {deg deg' : Int}

lemma Measures.measured_eq (h : Measures rig actual) :
    rig.measured = (servoAt actual).measured := by
  unfold Rig.measured
  rw [h.feedback_eq]

/-- A sensor without faults gives what it measures. -/
lemma Measures.read (h : Measures rig actual) :
    rig.read.2 = some (servoAt actual).measured ∧ Measures rig.read.1 actual := by
  have hmeasured := h.measured_eq
  unfold Rig.read
  simp only [h.disturbance_eq]
  refine ⟨?_, h.feedback_eq, rfl⟩
  show some (saturate (rig.measured.toInt + 0)) = _
  rw [Int.add_zero, saturate_toInt, hmeasured]

/-- What is written does not touch the sensor. -/
lemma Measures.onRig (h : Measures rig actual) (o : Governor.Outcome) :
    Measures (o.onRig rig) actual := by
  have hlines (writes : List (DisableLine × Bool)) : Measures (rig.writeLines writes) actual := by
    induction writes using List.reverseRecOn with
    | nil => exact h
    | append_singleton writes w ih =>
      unfold Rig.writeLines at ih ⊢
      rw [List.foldl_concat]
      exact ⟨ih.feedback_eq, ih.disturbance_eq⟩
  exact ⟨(hlines o.lineWrites).feedback_eq, (hlines o.lineWrites).disturbance_eq⟩

/-- Then the servo follows what was written. -/
lemma Measures.advance (h : Measures rig actual) (o : Governor.Outcome) :
    Measures (o.onRig rig).advance ((servoAt actual).advance o.report.duty).actual := by
  have hwritten := h.onRig o
  have hduty : (o.onRig rig).lastDuty = some o.report.duty := rfl
  unfold Rig.advance
  rw [hwritten.feedback_eq, hduty]
  exact ⟨rfl, hwritten.disturbance_eq⟩

/-- The reading is at most half a degree off. -/
lemma measured_near (actual : Int32) :
    actual.toInt - 5 ≤ 10 * (servoAt actual).measured.toInt ∧
      10 * (servoAt actual).measured.toInt ≤ actual.toInt + 5 := by
  have hscale : (servoAt actual).scale.toInt = 10 := rfl
  obtain ⟨hlow, hhigh⟩ := Servo.roundDiv_near actual.toInt (show (0 : Int) < 10 by omega)
  rw [Servo.toInt_measured (by omega), hscale]
  show _ ≤ 10 * Servo.roundDiv actual.toInt 10 ∧ 10 * Servo.roundDiv actual.toInt 10 ≤ _
  omega

/-- The servo is sent to a place between zero and the position, short of it by one at most. -/
lemma asked_near (actual : Int32) (hrange : Calibration.steering.range.contains position) :
    let asked := (servoAt actual).target
      (mapToDrive position (servoAt actual).range (servoAt actual).output)
    (0 ≤ position.toInt → 0 ≤ asked ∧ position.toInt - 1 ≤ asked ∧ asked ≤ position.toInt) ∧
      (position.toInt ≤ 0 → asked ≤ 0 ∧ position.toInt ≤ asked ∧ asked ≤ position.toInt + 1) := by
  obtain ⟨hlow, hhigh⟩ := PositionRange.contains_iff.mp hrange
  have hmin : (servoAt actual).range.min.toInt = -450 := rfl
  have hmax : (servoAt actual).range.max.toInt = 450 := rfl
  have houtMin : (servoAt actual).output.min.toNat = 1000 := rfl
  have houtCenter : (servoAt actual).output.center.toNat = 1500 := rfl
  have houtMax : (servoAt actual).output.max.toNat = 2000 := rfl
  have hbelow : (servoAt actual).output.min < (servoAt actual).output.center := by
    rw [UInt16.lt_iff_toNat_lt]
    omega
  have habove : (servoAt actual).output.center < (servoAt actual).output.max := by
    rw [UInt16.lt_iff_toNat_lt]
    omega
  refine ⟨fun hnonneg => ?_, fun hnonpos => ?_⟩
  · obtain ⟨hasked, hle, hloss⟩ := Servo.target_of_nonneg (s := servoAt actual) (by omega)
      (UInt16.le_of_lt hbelow) habove (by omega) hnonneg hhigh
    -- a unit of the drive is nine tenths of a position, which truncation may lose
    rw [houtMax, houtCenter, hmax] at hloss
    exact ⟨hasked, by omega, hle⟩
  · obtain ⟨hasked, hle, hloss⟩ := Servo.target_of_nonpos (s := servoAt actual) (by omega)
      (UInt16.le_of_lt habove) hbelow (by omega) hnonpos hlow
    rw [houtCenter, houtMin, hmin] at hloss
    exact ⟨hasked, hle, by omega⟩

/-- In words, one cycle of governor and servo makes one move of the loop. -/
lemma moves_words (actual : Int32) {position' : Int32}
    (hmove : position' = rateLimit position command 0 3)
    (hposition : Calibration.steering.range.contains position)
    (hcommand : Calibration.steering.range.contains command)
    (hactual : Calibration.steering.range.contains actual) :
    Moves command.toInt position.toInt actual.toInt position'.toInt
      ((servoAt actual).advance
        (mapToDrive position' (servoAt actual).range (servoAt actual).output)).actual.toInt := by
  have hrange : Calibration.steering.range.contains position' :=
    hmove ▸ contains_rateLimit (by decide) hposition hcommand
  have hexact : (rateLimit position command 0 3).toInt =
      slewLimited position.toInt command.toInt (0 : Int32).toInt (3 : Int32).toInt :=
    toInt_rateLimit (by decide)
  have hslew : (servoAt actual).slewPerCycle.toInt = 3 := rfl
  have hadvance := Servo.toInt_advance (s := servoAt actual) hactual (by omega)
    (mapToDrive position' (servoAt actual).range (servoAt actual).output)
  have hlimit : (3 : Int32).toInt = 3 := rfl
  have hactualAt : (servoAt actual).actual = actual := rfl
  rw [← hmove, Int32.toInt_zero, hlimit] at hexact
  rw [hslew, hactualAt] at hadvance
  obtain ⟨hup, hdown⟩ := asked_near actual hrange
  exact ⟨hexact, _, hup, hdown, hadvance⟩

end Words

/-! ## One cycle of the governor -/

section Governor
open Governor (State Call Undisturbed)

variable {st : State} {actual : Int32} {k : Call} {n : Nat} {deg deg' : Int}

/-- Between two cycles the steering governor is quiet, near the driver's value and the servo, and
has last seen the command of the phase, twice in the first phase at most. -/
structure Follows (n : Nat) (deg : Int) (st : State) (actual : Int32) : Prop where
  quiet : st.Quiet
  near : Near n deg st.position.toInt actual.toInt
  last_eq : ∀ command, st.staleness.lastCommand = some command → command.toInt = commandAt n deg
  count_le : st.staleness.count.toNat ≤ if n = 0 then 2 else 1

/-- The reference of a cycle is what the sensor measures. -/
lemma referencePosition_of_measures (st : State) (ho : ¬ k.inputs.isOverride)
    (hrig : Measures k.rig actual) :
    Governor.referencePosition .steering st (k.reading .steering) =
        some (Calibration.steering.toInternal (servoAt actual).measured) ∧
      Measures (Governor.sense .steering k.inputs k.rig).1 actual := by
  have hsense : Governor.sense .steering k.inputs k.rig = k.rig.read := by
    unfold Governor.sense Governor.readsSensor
    rw [eq_false_of_ne_true ho]
    rfl
  obtain ⟨hread, hkept⟩ := hrig.read
  unfold Call.reading
  rw [hsense, hread]
  exact ⟨rfl, hkept⟩

lemma toInt_toInternal_steering {signal : Int32}
    (h : -100000 ≤ signal.toInt ∧ signal.toInt ≤ 100000) :
    (Calibration.steering.toInternal signal).toInt = 10 * signal.toInt := by
  have hscale : Calibration.steering.signalScale.toInt = 10 := rfl
  unfold Calibration.toInternal
  rw [toInt_saturate, hscale, clampInt_eq_self (by omega) (by omega)]
  omega

/-- From one phase to the next the command changes, but for the last to the first. -/
lemma commandAt_next_ne (hn : n < 3) : commandAt n deg ≠ commandAt (n + 1) deg := by
  unfold commandAt nudged
  rcases Nat.mod_two_eq_zero_or_one n with heven | hodd
  · rw [decide_eq_false (by omega), decide_eq_true (by omega), if_neg Bool.false_ne_true,
      if_pos rfl]
    split <;> omega
  · rw [decide_eq_true (by omega), decide_eq_false (by omega), if_neg Bool.false_ne_true,
      if_pos rfl]
    split <;> omega

/-- The sensor is never five degrees from the command. -/
lemma distance_measured {n' : Nat} {command : Int32} (h : Near n deg p actual.toInt)
    (hstep : deg - 1 ≤ deg' ∧ deg' ≤ deg + 1) (hcommand : command.toInt = commandAt n' deg')
    (hactual : -450 ≤ actual.toInt ∧ actual.toInt ≤ 450) :
    distance command (Calibration.steering.toInternal (servoAt actual).measured) ≤
      Calibration.steering.plausibilityThreshold.toInt.natAbs := by
  have hservo := near_command n' h hstep
  have hmeasured := measured_near actual
  have hthreshold : Calibration.steering.plausibilityThreshold.toInt = 50 := rfl
  unfold distance
  rw [hcommand, toInt_toInternal_steering (by omega), hthreshold]
  omega

/-- A command is repeated only when the driver's value moves. -/
lemma observed_count {command : Int32} (h : Follows n deg st actual) (hn : n < 4)
    (hkept : n ≠ 3 → deg' = deg) (hcommand : command.toInt = commandAt ((n + 1) % 4) deg') :
    (st.staleness.observe command).count.toNat ≤ if (n + 1) % 4 = 0 then 2 else 1 := by
  have hle := h.count_le
  by_cases hlast : n = 3
  · subst hlast
    exact (st.staleness.count_observe_le command).trans (Nat.succ_le_succ hle)
  · obtain rfl := hkept hlast
    rw [if_neg (by omega), Staleness.observe_of_ne]
    intro hsame
    have hbefore := h.last_eq command hsame
    rw [hcommand, Nat.mod_eq_of_lt (by omega)] at hbefore
    exact commandAt_next_ne (by omega) hbefore.symm

/-- A cycle of the steering governor, and of the servo after it, takes the loop from one phase to
the next without a fault. -/
theorem follows_next (h : Follows n deg st actual) (hn : n < 4) (hkept : n ≠ 3 → deg' = deg)
    (hstep : deg - 1 ≤ deg' ∧ deg' ≤ deg + 1) (hdeg : -45 ≤ deg ∧ deg ≤ 45)
    (hdeg' : -45 ≤ deg' ∧ deg' ≤ 45) (ho : ¬ k.inputs.isOverride) (hrig : Measures k.rig actual)
    (hcommand : k.inputs.command.toInt = nudged (decide ((n + 1) % 4 % 2 = 1)) deg') :
    let o := k.outcome .steering st
    ∃ command reference actual', Undisturbed .steering st command reference o ∧
      Follows ((n + 1) % 4) deg' o.state actual' ∧
      Measures (o.onRig (Governor.sense .steering k.inputs k.rig).1).advance actual' := by
  intro o
  have hmem := nudged_mem (decide ((n + 1) % 4 % 2 = 1)) (by omega) (by omega) hdeg'.1 hdeg'.2
  obtain ⟨hreference, hsensed⟩ := referencePosition_of_measures st ho hrig
  have hword : (Calibration.steering.toInternal k.inputs.command).toInt =
      commandAt ((n + 1) % 4) deg' := by
    rw [toInt_toInternal_steering (by omega), hcommand, commandAt]
  have hmin : Calibration.steering.range.min.toInt = -450 := rfl
  have hmax : Calibration.steering.range.max.toInt = 450 := rfl
  obtain ⟨hposition, hactual⟩ :=
    near_range h.near (show (10 : Int) ≤ 450 by omega) (by omega) (by omega)
  generalize hcw : Calibration.steering.toInternal k.inputs.command = command at hword
  have hcommandRange : Calibration.steering.range.contains command := by
    rw [PositionRange.contains_iff, hmin, hmax, hword, commandAt]
    omega
  have hcheck := st.plausibility.check_of_near (distance_measured h.near hstep hword (by omega))
  have hcount := observed_count h hn hkept hword
  have hundisturbed : Undisturbed .steering st command
      (Calibration.steering.toInternal (servoAt actual).measured) o := by
    refine Governor.quiet_outcome h.quiet ho hreference hcw hcommandRange ?_ ?_
    · rw [hcheck]
      decide
    · have htimeout : Calibration.steering.cmdTimeoutCycles.toNat = 10 := rfl
      split at hcount <;> omega
  -- the servo is sent after the position of this cycle
  have hmoves := moves_words actual hundisturbed.position_eq
    (PositionRange.contains_iff.mpr ⟨by omega, by omega⟩) hcommandRange
    (PositionRange.contains_iff.mpr ⟨by omega, by omega⟩)
  rw [hword] at hmoves
  refine ⟨command, _, _, hundisturbed, ⟨hundisturbed.quiet, ?_, ?_, ?_⟩, hsensed.advance o⟩
  · rw [hundisturbed.duty_eq]
    exact near_next hn hkept hstep h.near hmoves
  · intro seen hseen
    rw [hundisturbed.staleness_eq, Staleness.lastCommand_observe] at hseen
    exact Option.some.inj hseen ▸ hword
  · rw [hundisturbed.staleness_eq]
    exact hcount

end Governor

end SteeringLoop
end FrontZone
