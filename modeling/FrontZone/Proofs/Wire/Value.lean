import FrontZone.Proofs.Json.Value
import FrontZone.Wire.Command
/-!
# Values of messages

What a receiver that takes any document sees of a reply or of a telemetry frame. A frame always has
a value, with a sequence number and no status (`TelemetryFrame.parseValue?_toJson`). A reply may
carry data that has none, nested too deeply or with numbers out of reach, or data that reading
rounds; it is its own value exactly if its data is (`Reply.parseValue?_toJson_iff`), and if it has a
value at all, then with its number, a status and no sequence number (`Reply.member?_value`).
-/

namespace FrontZone

open Json (Faithful maxDepth)

variable {n : Nat}

/-! ## Reports -/

@[simp]
lemma LatchState.faithful_toJson (s : LatchState) : Faithful (n + 2) s.toJson := by
  cases s with
  | normal => exact .string _
  | faulted level fault => exact Json.faithful_variantJson (by simp [FaultCode.toJson])
  | clearing level fault count => exact Json.faithful_variantJson (by simp [FaultCode.toJson])

@[simp]
lemma LatchTransition.faithful_toJson (t : LatchTransition) : Faithful (n + 2) t.toJson := by
  cases t with
  | none => exact .string _
  | confirmed level fault => exact Json.faithful_variantJson (by simp [FaultCode.toJson])
  | reconfirmed fault | relapsed fault | cleared fault =>
    exact Json.faithful_variantJson (by simp [FaultCode.toJson])

lemma CycleReport.faithful_toJson (r : CycleReport) : Faithful (n + 3) r.toJson :=
  Json.faithful_record (by simp [FaultCode.toJson])

lemma ZoneReport.faithful_toJson (r : ZoneReport) : Faithful (n + 4) r.toJson :=
  Json.faithful_record
    (by simp [SafetyStatus.toJson, VehicleState.toJson,
      Json.faithful_ofOption CycleReport.faithful_toJson])

@[simp]
lemma Dtc.faithful_toJson (d : Dtc) : Faithful n d.toJson := Json.faithful_uint32Json d.val

lemma DtcEntry.faithful_toJson (e : DtcEntry) : Faithful (n + 1) e.toJson :=
  Json.faithful_record (by simp)

@[simp]
lemma SensorFault.faithful_toJson (f : SensorFault) : Faithful (n + 2) f.toJson := by
  cases f with
  | offset deg => exact Json.faithful_variantJson (by simp)
  | dropout | stuck => exact .string _

lemma ActiveSensorFault.faithful_toJson (f : ActiveSensorFault) : Faithful (n + 3) f.toJson :=
  Json.faithful_record (by simp [Json.faithful_ofOption Json.faithful_uint32Json])

@[simp]
lemma InjectionStats.faithful_toJson (s : InjectionStats) : Faithful (n + 1) s.toJson :=
  Json.faithful_record (by simp)

@[simp]
lemma ScheduleStats.faithful_toJson (s : ScheduleStats) : Faithful (n + 1) s.toJson :=
  Json.faithful_record (by simp)

lemma Status.faithful_toJson (s : Status) : Faithful (n + 5) s.toJson :=
  Json.faithful_record (by simp [Json.faithful_ofOption ZoneReport.faithful_toJson])

/-! ## Telemetry -/

lemma ActuatorTelemetry.faithful_toJson (t : ActuatorTelemetry) : Faithful (n + 3) t.toJson :=
  Json.faithful_record (by simp [FaultCode.toJson])

lemma TelemetryFrame.faithful_toJson (f : TelemetryFrame) : Faithful (n + 4) f.toJson :=
  Json.faithful_record
    (by simp [SafetyStatus.toJson, VehicleState.toJson,
      Json.faithful_ofOption ActuatorTelemetry.faithful_toJson,
      Json.faithful_ofOption ActiveSensorFault.faithful_toJson,
      Json.faithful_ofOption Json.faithful_int32Json,
      Json.faithful_ofList Dtc.faithful_toJson])

/-- A frame has a value, with a sequence number and no status. -/
theorem TelemetryFrame.parseValue?_toJson (f : TelemetryFrame) :
    Json.parseValue? f.toJson.compress = some f.toJson.sorted ∧
      f.toJson.sorted.member? "sequence" = some (uint32Json f.sequence) ∧
      f.toJson.sorted.member? "status" = none := by
  have hvalue : Json.parseValue? f.toJson.compress = some f.toJson.sorted :=
    Json.parseValue?_compress (f.faithful_toJson (n := 0)) (by decide)
  refine ⟨hvalue, ?_⟩
  rw [toJson] at hvalue ⊢
  obtain ⟨hmember, hnone⟩ := Json.member?_value_record (by simp) hvalue
  exact ⟨hmember _ _ List.mem_cons_self (Json.faithful_uint32Json (n := 0) _),
    hnone _ (by simp)⟩

/-! ## Replies -/

/-- Faithful documents are read as they were written. -/
lemma Json.Faithful.legible {j : Json} (h : Faithful 126 j) :
    j.depth < maxDepth ∧ Json.parseValue? j.compress = some j.sorted :=
  ⟨Nat.lt_succ_of_le h.depth_le, Json.parseValue?_compress h (by decide)⟩

/-- The data of a reply, if there is any, is read as it was written, with room for the reply around
it. -/
def Reply.Legible (r : Reply) : Prop :=
  ∀ j ∈ r.data, j.depth < maxDepth ∧ Json.parseValue? j.compress = some j.sorted

/-- Faithful data is legible. -/
lemma Reply.legible_of_faithful {r : Reply} (h : ∀ j ∈ r.data, Faithful 126 j) : r.Legible :=
  fun j hj => (h j hj).legible

/-- A reply is read as it was written, members in order, exactly if it is legible. -/
theorem Reply.parseValue?_toJson_iff (r : Reply) :
    Json.parseValue? r.toJson.compress = some r.toJson.sorted ↔ r.Legible := by
  have hdata : (∀ j ∈ some (r.data.getD .null),
      j.depth < maxDepth ∧ Json.parseValue? j.compress = some j.sorted) ↔ r.Legible := by
    unfold Legible
    cases r.data with
    | none => simpa using Faithful.null.legible
    | some j => rfl
  rw [toJson, Json.parseValue?_record_iff (by simp), ← hdata]
  simp [Faithful.legible, Json.faithful_ofOption, ReplyStatus.toJson]

/-- A reply with data nested too deeply has no value. -/
theorem Reply.parseValue?_toJson_of_deep {r : Reply} {j : Json} (hdata : r.data = some j)
    (h : maxDepth ≤ j.depth) : Json.parseValue? r.toJson.compress = none := by
  have hle : j.depth + 1 ≤ r.toJson.depth := by
    refine Nat.succ_le_succ (Json.depthMembers_le_iff.1 (Nat.le_refl _) (some "data", j) ?_)
    simp [hdata]
  rw [Json.parseValue?_compress_eq, if_neg (by omega)]

/-- The value of a reply, if it has one, has its number and a status, but no sequence number. -/
theorem Reply.member?_value {r : Reply} {v : Json}
    (h : Json.parseValue? r.toJson.compress = some v) :
    v.member? "id" = some (uint32Json r.id) ∧ v.member? "status" = some r.status.toJson ∧
      v.member? "sequence" = none := by
  rw [toJson] at h
  obtain ⟨hmember, hnone⟩ := Json.member?_value_record (by simp) h
  exact ⟨hmember _ _ List.mem_cons_self (Json.faithful_uint32Json (n := 0) _),
    hmember _ r.status.toJson (by simp) (Json.faithful_text _), hnone _ (by simp)⟩

end FrontZone
