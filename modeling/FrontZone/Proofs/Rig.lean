import FrontZone.Proofs.Machine.Servo
import FrontZone.SensorFault
/-!
# Reading a rig in use

What a read gives is settled by the disturbance of the sensor and by what it measures at the moment
(`IsSound.reads`). Whatever else is done to a rig leaves the disturbance alone, as long as no
failures are pending, and a sound rig stays sound.
-/

namespace FrontZone
namespace Rig

variable {r : Rig}

/-! ## Sound rigs -/

/-- A rig whose sensor has something to measure, now and wherever its servo moves. -/
structure IsSound (r : Rig) : Prop where
  servo_sound : ∀ s ∈ r.servo?, Machine.SoundServo s
  wellPosed : r.illPosed = false

lemma isSound_scripted (value : Int32) : (scripted value).IsSound :=
  ⟨fun _ h => (nomatch h), rfl⟩

/-- A rig that measures the servo of a valid calibration is sound. -/
lemma isSound_withServo {c : Calibration} (hv : c.IsValid) (slew : Int32) :
    (withServo (.ofCalibration c slew)).IsSound := by
  refine ⟨fun s h => ?_, rfl⟩
  obtain rfl : Servo.ofCalibration c slew = s := Option.some.inj h
  exact Machine.sound_ofCalibration hv slew

lemma IsSound.isMeasurable (h : r.IsSound) : r.isMeasurable := by
  unfold Rig.isMeasurable
  cases hf : r.feedback with
  | scripted value => rfl
  | servo s =>
    have hs : Machine.SoundServo s := h.servo_sound s (by unfold servo?; rw [hf]; rfl)
    have hscale : s.scale ≠ 0 := by
      intro hzero
      have hpos := hs.scale_pos
      rw [hzero] at hpos
      exact absurd hpos (by decide)
    show s.measured?.isSome
    rw [Servo.measured?, if_neg hscale]
    rfl

/-- Faults given to the sensor do not matter to what it has to measure. -/
lemma IsSound.disturb (h : r.IsSound) (d : Disturbance) : (r.disturb d).IsSound :=
  ⟨h.servo_sound, h.wellPosed⟩

lemma IsSound.suffer (h : r.IsSound) (fault : SensorFault) : (r.suffer fault).IsSound := by
  refine ⟨h.servo_sound, ?_⟩
  show (r.illPosed || (fault = .stuck && !r.isMeasurable)) = false
  rw [h.wellPosed, h.isMeasurable]
  exact Bool.and_false _

/-! ## Reading -/

/-- Whether a read is defined and gives `reading`. -/
structure Reads (r : Rig) (reading : Option Int32) : Prop where
  read_eq : r.read.2 = reading
  wellPosed : r.read.1.illPosed = false

/-- A read measures only where there is something to measure. -/
lemma IsSound.read (h : r.IsSound) : r.read.1.IsSound := by
  have hmeasurable := h.isMeasurable
  unfold Rig.read
  dsimp only
  split
  · exact ⟨h.servo_sound, h.wellPosed⟩
  · split
    · exact ⟨h.servo_sound, h.wellPosed⟩
    · refine ⟨h.servo_sound, ?_⟩
      show (r.illPosed || !r.isMeasurable) = false
      rw [h.wellPosed, hmeasurable]
      rfl

/-- A read of a sound rig with no failures pending. -/
lemma IsSound.reads (h : r.IsSound) (hpending : r.disturbance.pendingFailures = 0) :
    r.Reads (if r.disturbance.failReads then none
      else some (saturate
        ((r.disturbance.stuckAt.getD r.measured).toInt + r.disturbance.offset.toInt))) := by
  refine ⟨?_, h.read.wellPosed⟩
  unfold Rig.read
  dsimp only
  rw [if_neg (not_not.mpr hpending)]
  split <;> rfl

lemma saturate_add_zero (v : Int32) : saturate (v.toInt + (0 : Int32).toInt) = v := by
  rw [Int32.toInt_zero, Int.add_zero, saturate_toInt]

/-- Without faults a sensor gives what it measures. -/
lemma IsSound.reads_measured (h : r.IsSound) (hclean : r.disturbance = {}) :
    r.Reads (some r.measured) := by
  have hreads := h.reads (by rw [hclean])
  rw [hclean] at hreads
  exact saturate_add_zero r.measured ▸ hreads

/-! ## Use -/

/-- What is done to a rig besides giving its sensor faults and taking them. -/
inductive Use where
  | setFeedback (value : Int32)
  | advance
  | writeDuty (duty : UInt16)
  | writeLine (line : DisableLine) (on : Bool)
  | read

/-- The rig after one use. -/
def use (r : Rig) : Use → Rig
  | .setFeedback value => r.setFeedback value
  | .advance => r.advance
  | .writeDuty duty => r.writeDuty duty
  | .writeLine line on => r.writeLine line on
  | .read => r.read.1

/-- Only a read that uses up a pending failure changes the disturbance. -/
lemma disturbance_use (hpending : r.disturbance.pendingFailures = 0) (u : Use) :
    (r.use u).disturbance = r.disturbance := by
  cases u with
  | setFeedback value => rfl
  | advance =>
    show r.advance.disturbance = _
    unfold Rig.advance
    split <;> rfl
  | writeDuty duty => rfl
  | writeLine line on => rfl
  | read =>
    show r.read.1.disturbance = _
    unfold Rig.read
    dsimp only
    rw [if_neg (not_not.mpr hpending)]
    split <;> rfl

/-- A servo that moves stays sound, and one that is replaced by a value is gone. -/
lemma IsSound.use (h : r.IsSound) (u : Use) : (r.use u).IsSound := by
  cases u with
  | setFeedback value => exact ⟨fun _ hs => (nomatch hs), h.wellPosed⟩
  | advance =>
    show r.advance.IsSound
    unfold Rig.advance
    split
    · next s duty hfeedback _ =>
      have hs : Machine.SoundServo s :=
        h.servo_sound s (by unfold servo?; rw [hfeedback]; rfl)
      refine ⟨fun s' hs' => ?_, ?_⟩
      · obtain rfl : s.advance duty = s' := Option.some.inj hs'
        exact Machine.sound_advance hs duty
      · show (r.illPosed || (s.advance? duty).isNone) = false
        rw [h.wellPosed, Servo.advance?, if_pos hs.range_nonempty]
        rfl
    · exact h
  | writeDuty duty => exact ⟨h.servo_sound, h.wellPosed⟩
  | writeLine line on => exact ⟨h.servo_sound, h.wellPosed⟩
  | read => exact h.read

end Rig
end FrontZone
