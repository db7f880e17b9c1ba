import FrontZone.Proofs.Governor.Run
import FrontZone.Zone
/-!
# Runs of a zone

A zone lives from cycle to cycle; in between, governors are started over and the settings from
outside change. Hardware and services are not its own, so a `Call` brings them along as it finds
them, whatever has happened to them since the last cycle.

A cycle of the zone is one update of each governor; `perform_actuator` says so for either of them,
and `governor_handle` what any request does to a governor.
-/

namespace FrontZone

/-! ## By actuator -/

/-- The calibration of an actuator. -/
def ZoneCalibration.actuator (z : ZoneCalibration) : Actuator → Calibration
  | .steering => z.steering
  | .brake => z.brake

/-- The report of an actuator, absent if its governor did not run. -/
def ZoneReport.actuator (r : ZoneReport) : Actuator → Option CycleReport
  | .steering => r.steering
  | .brake => r.brake

/-- The command of an actuator. -/
def ZoneCommands.actuator (c : ZoneCommands) : Actuator → Int32
  | .steering => c.steeringDeg
  | .brake => c.brakePct

/-- The actuator beside this one. -/
def Actuator.other : Actuator → Actuator
  | .steering => .brake
  | .brake => .steering

namespace Zone

/-- The hardware of an actuator after a cycle. -/
def Step.rig (s : Step) : Actuator → Rig
  | .steering => s.steeringRig
  | .brake => s.brakeRig

/-! ## Cycles -/

/-- What one cycle of a zone is called with. -/
structure Call where
  commands : ZoneCommands
  rig : Actuator → Rig
  services : Services

/-- One cycle. -/
def perform (z : Zone) (k : Call) : Step :=
  (z.step k.commands (k.rig .steering) (k.rig .brake) k.services).value

/-- What a governor would be called with in a cycle if it ran alone. -/
def aloneCall (z : Zone) (k : Call) (a : Actuator) : Governor.Call :=
  ⟨z.inputs (k.commands.actuator a), k.rig a, k.services⟩

/-- What a governor is called with in a cycle: the brake finds the services as steering has left
them. -/
def call (z : Zone) (k : Call) : Actuator → Governor.Call
  | .steering => z.aloneCall k .steering
  | .brake =>
    { z.aloneCall k .brake with
      services := (z.steering.perform (z.aloneCall k .steering)).services }

variable (z : Zone) (k : Call) (a : Actuator)

/-- To one actuator a cycle of the zone is an update of its governor. -/
lemma perform_actuator :
    (z.perform k).zone.governor a = ((z.governor a).perform (z.call k a)).governor ∧
      (z.perform k).rig a = ((z.governor a).perform (z.call k a)).rig ∧
      (z.perform k).report.actuator a =
        ((z.governor a).perform (z.call k a)).report.toOption := by
  cases a <;> exact ⟨rfl, rfl, rfl⟩

/-- The services go through both governors. -/
lemma services_perform :
    (z.perform k).services = (z.brake.perform (z.call k .brake)).services := rfl

/-- A call differs from what the governor would be called with alone in the services only. -/
lemma call_eq :
    (z.call k a).inputs = z.inputs (k.commands.actuator a) ∧ (z.call k a).rig = k.rig a := by
  cases a <;> exact ⟨rfl, rfl⟩

/-- Without an emergency stop and in a vehicle that runs no call is an override. -/
lemma not_isOverride_call (hstop : z.emergencyStop = false) (hstate : z.vehicleState = .run) :
    ¬ (z.call k a).inputs.isOverride := by
  rw [(z.call_eq k a).1]
  unfold CycleInputs.isOverride inputs
  rw [hstop, hstate]
  exact Bool.false_ne_true

/-! ## Runs -/

/-- What a zone can be asked to do. -/
inductive Request where
  | step (call : Call)
  | reinit (a : Actuator) (calibration : Option Calibration)
  | setEmergencyStop (active : Bool)
  | setVehicleState (state : VehicleState)
  | setExternalFault (bits : UInt8) (active : Bool)

/-- The zone after one request. -/
def handle (z : Zone) : Request → Zone
  | .step k => (z.perform k).zone
  | .reinit a calibration => (z.reinit a calibration).value.1
  | .setEmergencyStop active => z.setEmergencyStop active
  | .setVehicleState state => (z.setVehicleState state).value
  | .setExternalFault bits active => z.setExternalFault bits active

/-- The zone after a run of requests. -/
def run (z : Zone) (rs : List Request) : Zone :=
  rs.foldl handle z

lemma run_concat (rs : List Request) (r : Request) : z.run (rs ++ [r]) = (z.run rs).handle r :=
  List.foldl_concat ..

/-- Only a cycle and its own restart change a governor. -/
lemma governor_handle (r : Request) :
    (z.handle r).governor a =
      match r with
      | .step k => ((z.governor a).perform (z.call k a)).governor
      | .reinit b calibration =>
        if b = a then ((z.governor a).reinit calibration).1 else z.governor a
      | _ => z.governor a := by
  cases r with
  | step k => exact (z.perform_actuator k a).1
  | reinit b calibration => cases a <;> cases b <;> rfl
  | setEmergencyStop active => cases a <;> rfl
  | setVehicleState state =>
    show (z.setVehicleState state).value.governor a = z.governor a
    unfold setVehicleState
    split <;> cases a <;> rfl
  | setExternalFault bits active => cases a <;> rfl

/-! ## Starting -/

/-- A zone starts on valid calibrations, with both governors in their initial states and nothing
set from outside. -/
lemma ofCalibration_eq_ok_iff {z : Zone} {calibration : ZoneCalibration} :
    ofCalibration calibration = .ok z ↔
      (∀ a, (calibration.actuator a).IsValid) ∧
        z = { steering := ⟨some ⟨calibration.steering, .initial calibration.steering⟩⟩
              brake := ⟨some ⟨calibration.brake, .initial calibration.brake⟩⟩ } := by
  constructor
  · intro h
    unfold ofCalibration at h
    cases hsteering : Governor.init (some calibration.steering) with
    | error e =>
      rw [hsteering] at h
      exact nomatch h
    | ok steering =>
      cases hbrake : Governor.init (some calibration.brake) with
      | error e =>
        rw [hsteering, hbrake] at h
        exact nomatch h
      | ok brake =>
        rw [hsteering, hbrake] at h
        obtain ⟨hvalid, rfl⟩ := Governor.init_eq_ok_iff.mp hsteering
        obtain ⟨hvalid', rfl⟩ := Governor.init_eq_ok_iff.mp hbrake
        refine ⟨fun a => ?_, (Except.ok.inj h).symm⟩
        cases a with
        | steering => exact hvalid
        | brake => exact hvalid'
  · rintro ⟨hvalid, rfl⟩
    have hsteering : calibration.steering.IsValid := hvalid .steering
    have hbrake : calibration.brake.IsValid := hvalid .brake
    unfold ofCalibration
    rw [Governor.init_eq_ok_iff.mpr ⟨hsteering, rfl⟩, Governor.init_eq_ok_iff.mpr ⟨hbrake, rfl⟩]
    rfl

end Zone
end FrontZone
