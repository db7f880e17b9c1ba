import FrontZone.Proofs.Json.Size
import FrontZone.Wire.Report
/-!
# The size of reports

How many bytes suffice for what the zone reports, whatever numbers it holds: a table of the parts
for each record, with the longest name of each enumeration and the longest alternative of each
choice. Only lists have no bound of their own.
-/

namespace FrontZone

open Json (ofOption ofList room_record_le room_variantJson_le room_ofOption_le room_ofList_le)

namespace Json

@[simp]
lemma room_bool (b : Bool) : (Json.bool b).room ≤ 5 := Nat.le_refl 5

@[simp]
lemma room_ofOption_uint32 (n : Option UInt32) : (ofOption uint32Json n).room ≤ 10 :=
  room_ofOption_le (by decide) room_uint32Json n

@[simp]
lemma room_ofOption_int32 (n : Option Int32) : (ofOption int32Json n).room ≤ 11 :=
  room_ofOption_le (by decide) room_int32Json n

end Json

/-! ## Governor reports -/

@[simp]
lemma FaultCode.room_toJson_le (f : FaultCode) : f.toJson.room ≤ 14 := by
  cases f <;> decide

@[simp]
lemma VehicleState.room_toJson_le (s : VehicleState) : s.toJson.room ≤ 10 := by
  cases s <;> decide

@[simp]
lemma LatchState.room_toJson_le (s : LatchState) : s.toJson.room ≤ 70 := by
  cases s with
  | normal => decide
  | faulted level fault =>
    exact (room_variantJson_le [("level", 3), ("fault", 14)] (by simp)).trans (by decide)
  | clearing level fault count =>
    exact (room_variantJson_le [("level", 3), ("fault", 14), ("count", 5)]
      (by simp)).trans (by decide)

@[simp]
lemma LatchTransition.room_toJson_le (t : LatchTransition) : t.toJson.room ≤ 60 := by
  cases t with
  | none => decide
  | confirmed level fault =>
    exact (room_variantJson_le [("level", 3), ("fault", 14)] (by simp)).trans (by decide)
  | reconfirmed fault | relapsed fault | cleared fault =>
    exact (room_variantJson_le [("fault", 14)] (by simp)).trans (by decide)

lemma CycleReport.room_toJson_le (r : CycleReport) : r.toJson.room ≤ 290 :=
  (room_record_le
    [("position", 11), ("duty", 5), ("fault", 14), ("disable_level", 3), ("latch", 70),
      ("transition", 60), ("cutoff_active", 5), ("override_active", 5)]
    (by simp)).trans (by decide)

/-! ## Zone reports -/

@[simp]
lemma SafetyStatus.room_toJson_le (s : SafetyStatus) : s.toJson.room ≤ 10 := by
  cases s <;> decide

@[simp]
lemma room_ofOption_cycleReport (r : Option CycleReport) :
    (ofOption CycleReport.toJson r).room ≤ 290 :=
  room_ofOption_le (by decide) CycleReport.room_toJson_le r

lemma ZoneReport.room_toJson_le (r : ZoneReport) : r.toJson.room ≤ 730 :=
  (room_record_le
    [("cycle", 20), ("steering", 290), ("brake", 290), ("fault_mask", 3), ("safety", 10),
      ("vehicle_state", 10), ("emergency_stop", 5)]
    (by simp)).trans (by decide)

/-! ## Diagnostics and counts -/

@[simp]
lemma Dtc.room_toJson_le (d : Dtc) : d.toJson.room ≤ 10 := Json.room_uint32Json d.val

lemma DtcEntry.room_toJson_le (e : DtcEntry) : e.toJson.room ≤ 78 :=
  (room_record_le [("code", 10), ("test_failed", 5), ("confirmed", 5), ("occurrences", 5)]
    (by simp)).trans (by decide)

@[simp]
lemma SensorFault.room_toJson_le (f : SensorFault) : f.toJson.room ≤ 36 := by
  cases f with
  | offset deg => exact (room_variantJson_le [("deg", 11)] (by simp)).trans (by decide)
  | dropout | stuck => decide

lemma ActiveSensorFault.room_toJson_le (f : ActiveSensorFault) : f.toJson.room ≤ 130 :=
  (room_record_le [("fault", 36), ("remaining_cycles", 10), ("injected_at_cycle", 20)]
    (by simp)).trans (by decide)

@[simp]
lemma InjectionStats.room_toJson_le (s : InjectionStats) : s.toJson.room ≤ 150 :=
  (room_record_le
    [("total_injected", 10), ("dropouts", 10), ("offsets", 10), ("stuck", 10), ("expired", 10),
      ("manual_cleared", 10)]
    (by simp)).trans (by decide)

@[simp]
lemma ScheduleStats.room_toJson_le (s : ScheduleStats) : s.toJson.room ≤ 120 :=
  (room_record_le
    [("total_scheduled", 10), ("total_applied", 10), ("total_dropped", 10),
      ("currently_scheduled", 3)]
    (by simp)).trans (by decide)

/-! ## Status and telemetry -/

lemma Status.room_toJson_le (s : Status) : s.toJson.room ≤ 1250 :=
  (room_record_le
    [("cycle", 20), ("last_report", 730), ("commands_frozen", 5), ("fault_injection", 150),
      ("scheduler", 120), ("cutoff_frames_sent", 10)]
    (by simp [room_ofOption_le (by decide) ZoneReport.room_toJson_le])).trans (by decide)

lemma ActuatorTelemetry.room_toJson_le (t : ActuatorTelemetry) : t.toJson.room ≤ 220 :=
  (room_record_le
    [("position", 11), ("duty", 5), ("fault", 14), ("disable_level", 3), ("latch", 70),
      ("cutoff_active", 5), ("override_active", 5)]
    (by simp)).trans (by decide)

/-- A frame is bounded as long as it lists no more trouble codes than the event store can hold. -/
lemma TelemetryFrame.room_toJson_le (f : TelemetryFrame)
    (h : f.activeDtcs.length ≤ maxEventEntries) : f.toJson.room ≤ 1200 := by
  have hdtcs : (ofList Dtc.toJson f.activeDtcs).room ≤ 178 :=
    room_ofList_le Dtc.room_toJson_le h
  refine (room_record_le
    [("sequence", 10), ("cycle", 20), ("steering", 220), ("brake", 220),
      ("steering_feedback_deg", 11), ("fault_mask", 3), ("safety", 10), ("vehicle_state", 10),
      ("emergency_stop", 5), ("active_dtcs", 178), ("cutoff_frames_sent", 10),
      ("injected_fault", 130)] ?_).trans (by decide)
  simp [room_ofOption_le (by decide) ActuatorTelemetry.room_toJson_le,
    room_ofOption_le (by decide) ActiveSensorFault.room_toJson_le, hdtcs]

end FrontZone
