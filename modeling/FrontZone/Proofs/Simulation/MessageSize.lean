import FrontZone.Proofs.Schedule.Loading
import FrontZone.Proofs.Simulation.Run
import FrontZone.Proofs.Wire.Command
/-!
# Every message fits its buffer

`every_message_fits`: whatever a simulation has been through, each reply to a command and each
telemetry frame is short enough for its buffer. Reports and counts have a largest text
(`FrontZone.Proofs.Wire.Report`), and so have the words of a reply; only the trouble codes are a
list, and the event store never holds more than sixteen of them. That is the invariant, `Bounded`,
which every operation keeps; it also says of the replies kept for later that they fit.
-/

namespace FrontZone

/-! ## The event store -/

namespace EventStore

lemma length_entries_record (s : EventStore) (code : Dtc) (status : EventStatus)
    (h : s.entries.length ≤ maxEventEntries) :
    (s.record code status).entries.length ≤ maxEventEntries := by
  show (s.updateEntries code status).entries.length ≤ _
  unfold updateEntries
  split
  · rw [List.length_map]
    exact h
  split
  · next hroom =>
    rw [List.length_append]
    exact hroom
  · exact h

/-- The store never holds more entries than it has room for. -/
lemma length_entries_recordAll (events : List (Dtc × EventStatus)) (s : EventStore)
    (h : s.entries.length ≤ maxEventEntries) :
    (s.recordAll events).entries.length ≤ maxEventEntries := by
  induction events generalizing s with
  | nil => exact h
  | cons e events ih => exact ih _ (s.length_entries_record e.1 e.2 h)

lemma length_activeCodes_le (s : EventStore) : s.activeCodes.length ≤ s.entries.length := by
  rw [activeCodes, List.length_map]
  exact List.length_filter_le ..

end EventStore

lemma Governor.length_entries_perform (g : Governor) (k : Governor.Call)
    (h : k.services.events.entries.length ≤ maxEventEntries) :
    (g.perform k).services.events.entries.length ≤ maxEventEntries := by
  cases hactive : g.active with
  | none =>
    rw [perform_of_inactive hactive]
    exact h
  | some a =>
    obtain ⟨c, st⟩ := a
    rw [perform_of_active hactive]
    exact EventStore.length_entries_recordAll _ _ h

/-! ## The words of a reply -/

/-- A number below a power of ten has at most so many digits in words, too. -/
lemma utf8ByteSize_toString_nat {n k : Nat} (hk : 0 < k) (h : n < 10 ^ k) :
    (toString n).utf8ByteSize ≤ k := by
  show (Nat.repr n).utf8ByteSize ≤ k
  rw [Nat.repr_eq_ofList_toDigits, String.utf8ByteSize_ofList]
  exact Json.utf8Len_natDigits_le hk h

lemma utf8ByteSize_toString_uint64 (n : UInt64) : (toString n).utf8ByteSize ≤ 20 := by
  have hlt := n.toNat_lt
  exact utf8ByteSize_toString_nat (by decide) (by omega)

lemma utf8ByteSize_toString_int32 (n : Int32) : (toString n).utf8ByteSize ≤ 11 := by
  have hlo := Int32.le_toInt n
  have hhi := Int32.toInt_lt n
  show (Int.repr n.toInt).utf8ByteSize ≤ 11
  cases hn : n.toInt with
  | ofNat m =>
    have hm : m < 10 ^ 10 := by
      rw [hn, Int.ofNat_eq_natCast] at hhi
      omega
    exact (utf8ByteSize_toString_nat (by decide) hm).trans (by decide)
  | negSucc m =>
    have hm : m + 1 < 10 ^ 10 := by
      rw [hn, Int.negSucc_eq] at hlo
      omega
    have hdigits := utf8ByteSize_toString_nat (by decide) hm
    have hminus : "-".utf8ByteSize = 1 := by decide
    show ("-" ++ Nat.repr (m + 1)).utf8ByteSize ≤ 11
    rw [String.utf8ByteSize_append, hminus]
    exact Nat.add_le_add_left hdigits 1

/-- The words for a refused stimulus are short. -/
lemma ScheduleError.utf8ByteSize_message_le (e : ScheduleError) : e.message.utf8ByteSize ≤ 99 := by
  cases e with
  | queueFull => decide
  | inPast at_ now =>
    have hat := utf8ByteSize_toString_uint64 at_
    have hnow := utf8ByteSize_toString_uint64 now
    have hcycle : "cycle ".utf8ByteSize = 6 := by decide
    have hpast : " is already in the past (now ".utf8ByteSize = 29 := by decide
    have hclose : ")".utf8ByteSize = 1 := by decide
    simp only [message, String.utf8ByteSize_append]
    omega

lemma CalibrationField.utf8ByteSize_name_le (f : CalibrationField) : f.name.utf8ByteSize ≤ 28 := by
  cases f <;> decide

/-- The words for a refused calibration are short. -/
lemma CalibrationError.utf8ByteSize_message_le (e : CalibrationError) :
    e.message.utf8ByteSize ≤ 99 := by
  cases e with
  | emptyRange min max =>
    have hmin := utf8ByteSize_toString_int32 min
    have hmax := utf8ByteSize_toString_int32 max
    have hempty : "range is empty: min ".utf8ByteSize = 20 := by decide
    have hthan : " > max ".utf8ByteSize = 7 := by decide
    show ("range is empty: min " ++ toString min ++ " > max " ++ toString max).utf8ByteSize ≤ 99
    simp only [String.utf8ByteSize_append]
    omega
  | outsideRange field value =>
    have hname := field.utf8ByteSize_name_le
    have hvalue := utf8ByteSize_toString_int32 value
    have hopen : " (".utf8ByteSize = 2 := by decide
    have hclose : ") lies outside the configured range".utf8ByteSize = 35 := by decide
    show (field.name ++ " (" ++ toString value ++
      ") lies outside the configured range").utf8ByteSize ≤ 99
    simp only [String.utf8ByteSize_append]
    omega
  | notPositive field =>
    have hname := field.utf8ByteSize_name_le
    have hpositive : " must be positive".utf8ByteSize = 17 := by decide
    show (field.name ++ " must be positive").utf8ByteSize ≤ 99
    rw [String.utf8ByteSize_append]
    omega
  | outputDomain => exact (by decide :
      "output domain must satisfy min <= center <= max".utf8ByteSize ≤ 99)

/-! ## Replies -/

/-- A reply fits if its words are short and its data leaves room for them. -/
lemma Reply.room_toJson_le {r : Reply} (hmessage : ∀ m ∈ r.message, m.utf8ByteSize ≤ 99)
    (hdata : (r.data.getD .null).room ≤ 1300) : r.toJson.room ≤ maxReplySize := by
  have hstatus : r.status.toJson.room ≤ 16 := by
    cases r.status <;> decide
  have hwords : (Json.ofOption Json.text r.message).room ≤ 600 := by
    cases hm : r.message with
    | none => decide
    | some m =>
      have hroom := Json.textRoom_le m
      have hshort := hmessage m hm
      show Json.textRoom m ≤ 600
      omega
  refine (Json.room_record_le
    [("id", 10), ("cycle", 20), ("status", 16), ("message", 600), ("data", 1300)] ?_).trans
    (by decide)
  simp [hstatus, hwords, hdata]

lemma Reply.message?_of_le {r : Reply} (h : r.toJson.compress.utf8ByteSize ≤ maxReplySize) :
    r.message? = .ok r.toJson.compress :=
  if_pos h

lemma Reply.message?_of_room {r : Reply} (h : r.toJson.room ≤ maxReplySize) :
    r.message? = .ok r.toJson.compress :=
  message?_of_le ((Json.utf8ByteSize_compress_le _).trans h)

namespace Simulation

variable {s s' : Simulation}

lemma room_reply_le (s : Simulation) (c : Command) (status : ReplyStatus) {message : String}
    (h : message.utf8ByteSize ≤ 99) : (s.reply c status message).toJson.room ≤ maxReplySize :=
  Reply.room_toJson_le (by rintro _ ⟨rfl⟩; exact h) (by show Json.room .null ≤ 1300; decide)

lemma room_scheduleFault_le (s : Simulation) (c : Command) (fault : SensorFault)
    (duration : Option UInt32) :
    (s.scheduleFault c fault duration).2.toJson.room ≤ maxReplySize := by
  unfold scheduleFault
  dsimp only
  split
  · exact room_reply_le _ c _ (by decide)
  · next e _ => exact room_reply_le _ c _ e.utf8ByteSize_message_le

/-- The longest script has five stimuli, so their number has one digit. -/
lemma lt_of_load {q : Schedule} {scenario : Scenario} {start : UInt64} {count : Nat}
    (h : (q.load scenario start).2 = .ok count) : count < 10 ^ 1 := by
  obtain ⟨-, rfl⟩ := Schedule.load_eq_ok_iff.mp h
  cases scenario <;> decide

lemma room_runScenario_le (s : Simulation) (c : Command) (scenario : Scenario) :
    (s.runScenario c scenario).value.2.toJson.room ≤ maxReplySize := by
  unfold runScenario
  dsimp only
  split
  · next count h =>
    have hcount := utf8ByteSize_toString_nat (by decide) (lt_of_load h)
    have hwords : " stimuli scheduled".utf8ByteSize = 18 := by decide
    refine room_reply_le _ c _ ?_
    rw [String.utf8ByteSize_append]
    omega
  · next e _ => exact room_reply_le _ c _ e.utf8ByteSize_message_le

lemma room_restart_le (s : Simulation) (c : Command) (a : Actuator) :
    (s.restart c a).value.2.toJson.room ≤ maxReplySize := by
  unfold restart
  simp only [Logged.value_bind]
  split
  · exact room_reply_le _ c _ (by decide)
  · next e _ => exact room_reply_le _ c _ e.utf8ByteSize_message_le

/-- Every reply fits, as long as the event store holds no more than it has room for. -/
theorem room_execute_le (h : s.services.events.entries.length ≤ maxEventEntries) (c : Command) :
    (s.execute c).value.2.toJson.room ≤ maxReplySize := by
  obtain ⟨id, request⟩ := c
  cases request with
  | status =>
    refine Reply.room_toJson_le (by rintro _ ⟨rfl⟩; decide) ?_
    exact (Json.room_sorted_le _).trans ((Status.room_toJson_le s.status).trans (by decide))
  | getDtcs =>
    refine Reply.room_toJson_le (by rintro _ ⟨rfl⟩; decide) ?_
    exact (Json.room_sorted_le _).trans
      ((Json.room_ofList_le DtcEntry.room_toJson_le h).trans (by decide))
  | emergencyStop active => cases active <;> exact room_reply_le s _ _ (by decide)
  | injectSensorFault fault duration => exact room_scheduleFault_le s _ fault duration
  | runScenario scenario => exact room_runScenario_le s _ scenario
  | restart actuator => exact room_restart_le s _ actuator
  | _ => exact room_reply_le s _ _ (by decide)

/-! ## Everything that can happen -/

/-- The event store holds no more entries than it has room for, and the replies kept all fit. -/
structure Bounded (s : Simulation) : Prop where
  entries_le : s.services.events.entries.length ≤ maxEventEntries
  replies_fit : ∀ r ∈ s.replies, r.toJson.room ≤ maxReplySize

lemma bounded_of_ofCalibration {z : ZoneCalibration} (h : ofCalibration z = .ok s) :
    s.Bounded := by
  obtain ⟨zone, -, rfl⟩ := eq_of_ofCalibration h
  exact ⟨Nat.zero_le _, nofun⟩

/-- Stimuli neither report events nor answer commands. -/
lemma Bounded.of_keeps (h : s.Bounded) (hk : Keeps s s') (hreplies : s'.replies = s.replies) :
    s'.Bounded :=
  ⟨hk.services_eq ▸ h.entries_le, hreplies ▸ h.replies_fit⟩

lemma replies_apply (s : Simulation) (stimulus : Stimulus) :
    (s.apply stimulus).value.replies = s.replies := by
  cases stimulus with
  | emergencyStop active => cases active <;> rfl
  | _ => rfl

/-- A cycle reports into the store, which looks after its own bound. -/
lemma bounded_control (h : s.Bounded) : s.control.value.Bounded := by
  refine ⟨?_, h.replies_fit⟩
  rw [control_eq]
  show (s.zone.perform s.call).services.events.entries.length ≤ maxEventEntries
  rw [Zone.services_perform]
  exact Governor.length_entries_perform _ _ (Governor.length_entries_perform _ _ h.entries_le)

/-- A frame lists the trouble codes that are failed in the store after the cycle. -/
lemma activeDtcs_emit {report : ZoneReport} {frame : TelemetryFrame}
    (h : (s.emit report).2 = some frame) : frame.activeDtcs = s.services.events.activeCodes := by
  unfold emit at h
  dsimp only at h
  split at h
  · obtain rfl := Option.some.inj h
    rfl
  · exact nomatch h

/-- A tick keeps the bounds, and with them the frame it sends is bounded. -/
theorem bounded_tick (h : s.Bounded) :
    s.tick.value.1.Bounded ∧
      ∀ frame, s.tick.value.2 = some frame → frame.toJson.room ≤ maxTelemetrySize := by
  have hdue : s.openCycle.value.applyDue.value.Bounded :=
    h.of_keeps ((keeps_openCycle s).trans (keeps_applyDue _)) (applyAll_eq _ replies_apply _)
  rw [tick_value]
  generalize s.openCycle.value.applyDue.value = due at hdue
  have hcontrol := bounded_control hdue
  constructor
  · obtain ⟨telemetry, hemit⟩ := emit_eq due.control.value (due.zone.perform due.call).report
    dsimp only
    rw [hemit]
    exact ⟨hcontrol.entries_le, hcontrol.replies_fit⟩
  · intro frame hframe
    have hcodes : frame.activeDtcs.length ≤ maxEventEntries := by
      rw [activeDtcs_emit hframe]
      exact (EventStore.length_activeCodes_le _).trans hcontrol.entries_le
    exact (frame.room_toJson_le hcodes).trans (by decide)

/-- Commands do not touch the replies kept. -/
lemma replies_execute (s : Simulation) (c : Command) :
    (s.execute c).value.1.replies = s.replies := by
  obtain ⟨id, request⟩ := c
  cases request with
  | injectSensorFault fault duration =>
    show (s.scheduleFault _ fault duration).1.replies = _
    rw [scheduleFault_fst]
  | runScenario scenario =>
    show (s.runScenario _ scenario).value.1.replies = _
    rw [runScenario_fst]
  | restart a =>
    show (s.restart _ a).value.1.replies = _
    rw [restart_fst]
  | emergencyStop active => exact replies_apply s (.emergencyStop active)
  | setVehicleState state => exact replies_apply s (.setVehicleState state)
  | _ => rfl

lemma bounded_execute (h : s.Bounded) (c : Command) : (s.execute c).value.1.Bounded := by
  refine ⟨?_, replies_execute s c ▸ h.replies_fit⟩
  -- clearing empties the store; a restart and every other command leave it as it is
  by_cases hclear : c.request = .clearDtcs
  · rw [show (s.execute c).value.1.services.events = _ from (handle_clearDtcs s hclear).2.2]
    exact Nat.zero_le _
  by_cases hrestart : ∃ a, c.request = .restart a
  · obtain ⟨a, ha⟩ := hrestart
    rw [show (s.execute c).value.1.services = _ from (handle_restart s ha).2.1]
    exact h.entries_le
  · rw [show (s.execute c).value.1.services = _ from
      (keeps_execute s (fun a ha => hrestart ⟨a, ha⟩) hclear).services_eq]
    exact h.entries_le

/-- Commands that waited are answered by replies that fit. -/
lemma bounded_executeAll (cs : List Command) (h : s.Bounded) : (executeAll cs s).value.Bounded := by
  induction cs generalizing s with
  | nil => exact h
  | cons c cs ih =>
    have hnext := bounded_execute h c
    refine ih ⟨hnext.entries_le, fun r hr => ?_⟩
    rcases List.mem_append.1 (List.mem_of_mem_drop hr) with hr | hr
    · exact hnext.replies_fit r hr
    · obtain rfl := List.mem_singleton.1 hr
      exact room_execute_le h.entries_le c

/-- Every operation keeps the bounds. -/
theorem bounded_operate (h : s.Bounded) (op : Operation) : (s.operate op).Bounded := by
  cases op with
  | tick => exact (bounded_tick h).1
  | apply stimulus => exact h.of_keeps (keeps_apply s stimulus) (replies_apply s stimulus)
  | execute c => exact bounded_execute h c
  | enqueue c =>
    show ((s.enqueue c).getD s).Bounded
    unfold enqueue
    split
    · exact ⟨h.entries_le, h.replies_fit⟩
    · exact h
  | processQueue => exact bounded_executeAll s.queue ⟨h.entries_le, h.replies_fit⟩
  | takeReplies => exact ⟨h.entries_le, nofun⟩

theorem bounded_operateAll (h : s.Bounded) (ops : List Operation) : (s.operateAll ops).Bounded := by
  induction ops generalizing s with
  | nil => exact h
  | cons op ops ih => exact ih (bounded_operate h op)

/-! ## Messages -/

/-- A reply is within its bound, and every handler writes it, whatever it wrote before. -/
def Fits (r : Reply) : Prop :=
  r.toJson.compress.utf8ByteSize ≤ maxReplySize ∧
    ∀ hd : Handler, (hd.writeReply r).2 = .ok r.toJson.compress

/-- A telemetry frame is within its bound, and every handler writes it. -/
def FrameFits (f : TelemetryFrame) : Prop :=
  f.toJson.compress.utf8ByteSize ≤ maxTelemetrySize ∧
    ∀ hd : Handler, (hd.writeTelemetry f).2 = .ok f.toJson.compress

lemma fits_of_room {r : Reply} (h : r.toJson.room ≤ maxReplySize) : Fits r := by
  have hsize := (Json.utf8ByteSize_compress_le r.toJson).trans h
  refine ⟨hsize, fun hd => ?_⟩
  rw [Handler.writeReply_snd, Reply.message?, bounded, if_pos hsize]

lemma frameFits_of_room {f : TelemetryFrame} (h : f.toJson.room ≤ maxTelemetrySize) :
    FrameFits f := by
  have hsize := (Json.utf8ByteSize_compress_le f.toJson).trans h
  refine ⟨hsize, fun hd => ?_⟩
  rw [Handler.writeTelemetry_snd, TelemetryFrame.message?, bounded, if_pos hsize]

/-- Whatever a simulation has been through since it was started, its reply to any command fits, and
so do the replies kept for later and the telemetry frame of the next tick. -/
theorem every_message_fits {z : ZoneCalibration} (h : ofCalibration z = .ok s)
    (ops : List Operation) :
    (∀ c, Fits ((s.operateAll ops).execute c).value.2) ∧
      (∀ r ∈ (s.operateAll ops).replies, Fits r) ∧
      ∀ frame, (s.operateAll ops).tick.value.2 = some frame → FrameFits frame := by
  have hbounded := bounded_operateAll (bounded_of_ofCalibration h) ops
  exact ⟨fun c => fits_of_room (room_execute_le hbounded.entries_le c),
    fun r hr => fits_of_room (hbounded.replies_fit r hr),
    fun frame hframe => frameFits_of_room ((bounded_tick hbounded).2 frame hframe)⟩

/-- The replies to two commands that waited, the status after them and the frame of the first cycle
without a sensor. -/
theorem messages_fit_without_sensor :
    let ops : List Operation :=
      [.enqueue ⟨1, .injectSensorFault .dropout none⟩, .enqueue ⟨2, .restart .brake⟩, .processQueue]
    ∃ s frame, ofCalibration {} = .ok s ∧ (s.operateAll ops).replies.length = 2 ∧
      (∀ r ∈ (s.operateAll ops).replies, Fits r) ∧
      Fits ((s.operateAll ops).execute ⟨3, .status⟩).value.2 ∧
      (s.operateAll ops).tick.value.2 = some frame ∧ FrameFits frame := by
  intro ops
  obtain ⟨s, hs, hreplies, hframe⟩ : ∃ s, ofCalibration {} = .ok s ∧
      (s.operateAll ops).replies.length = 2 ∧ (s.operateAll ops).tick.value.2.isSome :=
    ⟨_, rfl, by decide +kernel, by decide +kernel⟩
  obtain ⟨frame, hframe⟩ := Option.isSome_iff_exists.mp hframe
  obtain ⟨hanswers, hkept, hframes⟩ := every_message_fits hs ops
  exact ⟨s, frame, hs, hreplies, hkept, hanswers _, hframe, hframes frame hframe⟩

end Simulation

end FrontZone
