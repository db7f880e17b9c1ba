import FrontZone.Proofs.Machine.Governor
import FrontZone.Proofs.Machine.Servo
/-!
# No valid calibration makes the control path fail

The main statement puts together what the equations of a cycle and of a servo say: computed as a
machine does, a run on a valid calibration comes to what exact arithmetic gives, which is to say
that no division is by zero, no bounds are empty, no result leaves its word, no counter passes its
end and no cast changes a number. Requests bring hardware and services along as they find them, so
commands, readings and failed reads are arbitrary.
-/

namespace FrontZone

namespace Machine

open Governor (Call Request)

variable {c : Calibration} {g : Governor}

/-- A governor after a run of requests. -/
def run (g : Governor) (rs : List Request) : Checked Governor :=
  rs.foldlM handle g

lemma run_eq (hg : SoundGovernor g) (rs : List Request) :
    run g rs = .ok (g.run rs) ∧ SoundGovernor (g.run rs) :=
  foldlM_exact SoundGovernor (fun _ r hg => handle_eq hg r) (fun _ r hg => sound_handle hg r) hg rs

/-- A valid calibration starts a governor on which every run, every update after it and the reading
of the position are exact, and for whatever slew a servo of which every run and the reading are. -/
theorem control_path_exact (hv : c.validate = .ok ()) :
    (∃ g, Governor.init (some c) = .ok g ∧ ∀ rs : List Request,
      run g rs = .ok (g.run rs) ∧
        (∀ k : Call, update (g.run rs) k.inputs k.rig k.services =
          .ok ((g.run rs).update k.inputs k.rig k.services)) ∧
        positionSignal (g.run rs) = .ok (g.run rs).positionSignal) ∧
      ∀ (slew : Int32) (duties : List UInt16),
        let s : Servo := duties.foldl Servo.advance (.ofCalibration c slew)
        drive (.ofCalibration c slew) duties = .ok s ∧ measured s = .ok s.measured := by
  have hvalid : c.IsValid := Calibration.validate_eq_ok_iff.mp hv
  constructor
  · have hinit : Governor.init (some c) = .ok ⟨some ⟨c, .initial c⟩⟩ :=
      Governor.init_eq_ok_iff.mpr ⟨hvalid, rfl⟩
    refine ⟨_, hinit, fun rs => ?_⟩
    obtain ⟨hrun, hsound⟩ := run_eq (sound_of_init hinit) rs
    exact ⟨hrun, update_eq hsound, positionSignal_eq hsound⟩
  · intro slew duties s
    obtain ⟨hdrive, hsound⟩ := drive_eq (sound_ofCalibration hvalid slew) duties
    exact ⟨hdrive, measured_eq hsound.scale_pos⟩

/-- Ranges as wide as a word, the coarsest scale and a drive domain of a single value. -/
theorem widest_calibration_exact :
    let c : Calibration :=
      { Calibration.brake with
        signalScale := 2147483647
        range := ⟨-2147483648, 2147483647⟩
        safeValue := -2147483648
        initialPosition := 2147483647
        rateLimit := 2147483647
        output := ⟨65535, 65535, 65535⟩ }
    let s : Servo := .ofCalibration c (-2147483648)
    let k : Call := ⟨{ command := -1 }, .scripted 0, {}⟩
    c.validate = .ok () ∧
      drive s [0, 65535] = .ok { s with actual := 2147483645 } ∧
      ∃ g, Governor.init (some c) = .ok g ∧
        run g [.update k] = .ok (g.run [.update k]) ∧
        positionSignal (g.run [.update k]) = .ok (.ok (-1)) := by
  intro c s k
  -- one request moves to the lower end, two duties that ask for zero move the servo by two units
  have hv : c.validate = .ok () := by decide +kernel
  obtain ⟨⟨g, hinit, hrun⟩, hservo⟩ := control_path_exact hv
  obtain rfl : (⟨some ⟨c, .initial c⟩⟩ : Governor) = g := by injection hinit
  obtain ⟨hexact, -, hsignal⟩ := hrun [.update k]
  refine ⟨hv, (hservo (-2147483648) [0, 65535]).1.trans ?_, _, hinit, hexact, hsignal.trans ?_⟩
  · decide +kernel
  · decide +kernel

/-- What validation keeps out does go wrong: a scale of zero divides by zero. -/
example : measured (.ofCalibration { Calibration.steering with signalScale := 0 } 1) =
    .error .divisionByZero := by decide +kernel

end Machine

end FrontZone
