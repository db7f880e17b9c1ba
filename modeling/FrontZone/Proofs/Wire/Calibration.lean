import FrontZone.Proofs.Json.Decode
import FrontZone.Proofs.Zone.Run
import FrontZone.Simulation
import FrontZone.Wire.Calibration
/-!
# Calibrations from documents

`parse_round_trip`: the text of a zone calibration, whatever its names and numbers, is loaded as
that calibration if it is valid and refused for what `validate` finds fault with otherwise; and what
is loaded from any text at all is valid, so that a simulation starts from it. The first section
reads each part of a calibration back from its document.
-/

namespace FrontZone

open Json (record text ofOption required optional Exact)

/-! ## Parts of a calibration -/

@[simp]
lemma FailSafe.ofJson?_toJson (f : FailSafe) : ofJson? f.toJson = some f := by
  cases f with
  | ramp rate => simp [ofJson?, toJson]
  | snap => rfl

@[simp]
lemma Escalation.ofJson?_toJson (e : Escalation) : ofJson? e.toJson = some e := by
  cases e with
  | disableLines => rfl
  | cutoffBroadcast count => simp [ofJson?, toJson]

@[simp]
lemma FeedbackSource.ofJson?_toJson (f : FeedbackSource) : ofJson? f.toJson = some f := by
  cases f <;> rfl

@[simp]
lemma PositionRange.ofJson?_toJson (r : PositionRange) : ofJson? r.toJson = some r := by
  simp [ofJson?, toJson]

@[simp]
lemma DriveDomain.ofJson?_toJson (d : DriveDomain) : ofJson? d.toJson = some d := by
  simp [ofJson?, toJson]

lemma Dtc.ofJson?_toJson (d : Dtc) : ofJson? d.toJson = some d := by
  simp [ofJson?, toJson]

@[simp]
lemma optional_dtc (d : Option Dtc) :
    optional Dtc.ofJson? (some (ofOption Dtc.toJson d)) = some d :=
  Json.optional_ofOption Dtc.ofJson?_toJson (fun _ => nofun) d

@[simp]
lemma DtcMap.ofJson?_toJson (m : DtcMap) : ofJson? m.toJson = some m := by
  simp [ofJson?, toJson]

@[simp]
lemma Calibration.ofJson?_toJson (c : Calibration) : ofJson? c.toJson = some c := by
  rw [ofJson?, toJson, Json.fields?_record]
  · -- the list of parts goes first, or every later step drags all of it along
    simp only [List.map_cons, List.map_nil]
    rw [Option.bind_eq_bind, Option.bind_some]
    simp
  · rfl
  · decide

/-- A zone calibration is read back from its document, valid or not. -/
lemma ZoneCalibration.ofJson?_toJson (z : ZoneCalibration) : ofJson? z.toJson = some z := by
  simp [ofJson?, toJson]

/-! ## Documents without decimals -/

@[simp]
lemma FailSafe.exact_toJson (f : FailSafe) : Exact f.toJson := by
  cases f <;> simp [toJson]

@[simp]
lemma Escalation.exact_toJson (e : Escalation) : Exact e.toJson := by
  cases e <;> simp [toJson]

@[simp]
lemma FeedbackSource.exact_toJson (f : FeedbackSource) : Exact f.toJson := by
  cases f <;> simp [toJson]

@[simp]
lemma exact_dtc (d : Option Dtc) : Exact (ofOption Dtc.toJson d) :=
  Json.exact_ofOption (fun _ => .integer _) d

@[simp]
lemma Calibration.exact_toJson (c : Calibration) : Exact c.toJson := by
  simp [toJson, PositionRange.toJson, DriveDomain.toJson, DtcMap.toJson]

lemma ZoneCalibration.exact_toJson (z : ZoneCalibration) : Exact z.toJson := by
  simp [toJson]

/-! ## Loading -/

namespace ZoneCalibration

/-- A zone calibration is consistent if that of each actuator is and telemetry has a period. -/
lemma validate_eq_ok_iff {z : ZoneCalibration} :
    z.validate = .ok () ↔
      z.steering.IsValid ∧ z.brake.IsValid ∧ z.telemetryEveryCycles ≠ 0 := by
  unfold validate
  rw [Calibration.seq_eq_ok_iff, Calibration.seq_eq_ok_iff, Calibration.validate_eq_ok_iff,
    Calibration.validate_eq_ok_iff, demand_eq_ok_iff]

/-- A simulation starts from every consistent calibration. -/
lemma exists_ofCalibration {z : ZoneCalibration} (h : z.validate = .ok ()) :
    ∃ s, Simulation.ofCalibration z = .ok s := by
  obtain ⟨hsteering, hbrake, -⟩ := validate_eq_ok_iff.mp h
  have hzone := Zone.ofCalibration_eq_ok_iff.mpr
    ⟨fun | .steering => hsteering | .brake => hbrake, rfl⟩
  rw [Simulation.ofCalibration, h, hzone]
  exact ⟨_, rfl⟩

/-- Only what passes validation is loaded. -/
lemma validate_of_parse {s : String} {c : ZoneCalibration} (h : parse s = .ok c) :
    c.validate = .ok () := by
  unfold parse at h
  split at h
  · exact nomatch h
  split at h
  · next z hz =>
    obtain rfl := Except.ok.inj h
    exact hz
  · exact nomatch h

/-- The text of a zone calibration is loaded as that calibration, or refused for the inconsistency
that `validate` finds. Whatever is loaded is consistent, and a simulation starts from it. -/
theorem parse_round_trip (z : ZoneCalibration) :
    parse z.toJson.compress = ((z.validate.mapError LoadError.invalid).map fun _ => z) ∧
      ∀ (s : String) (c : ZoneCalibration), parse s = .ok c →
        c.validate = .ok () ∧ ∃ started, Simulation.ofCalibration c = .ok started := by
  constructor
  · rw [parse, Json.parse?_compress z.exact_toJson, Option.bind_some, ofJson?_toJson]
    dsimp only
    cases z.validate <;> rfl
  · intro s c h
    have hvalid := validate_of_parse h
    exact ⟨hvalid, exists_ofCalibration hvalid⟩

/-- A name that needs escapes, and a calibration that is refused for its telemetry period. -/
theorem quoted_name_loaded :
    let z : ZoneCalibration :=
      { steering := { Calibration.steering with name := "\"front\\axle\"\n" } }
    parse z.toJson.compress = .ok z ∧ (∃ started, Simulation.ofCalibration z = .ok started) ∧
      parse { z with telemetryEveryCycles := 0 }.toJson.compress =
        .error (.invalid (.notPositive .telemetryEveryCycles)) := by
  intro z
  obtain ⟨hparse, hgate⟩ := parse_round_trip z
  have hloaded : parse z.toJson.compress = .ok z := hparse
  exact ⟨hloaded, (hgate _ z hloaded).2, (parse_round_trip _).1⟩

end ZoneCalibration

end FrontZone
