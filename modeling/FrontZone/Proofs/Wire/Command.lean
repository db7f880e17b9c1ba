import FrontZone.Proofs.Json.Decode
import FrontZone.Proofs.Wire.Report
import FrontZone.Wire.Handler
/-!
# Commands on the wire

`commands_round_trip`: the text of a command is short, stays on one line and is taken in as that
command again, blanks around it allowed, by a handler whatever it was called for before. The first
sections read each part of a command back from its document and bound its size; a handler gives what
`Command.parse` gives (`parseCommand_snd`), since its buffer is emptied before it is filled.
-/

namespace FrontZone

open Json (record text ofOption required optional Exact)

/-! ## Parts of a command -/

@[simp]
lemma onlyPart?_record {α : Type} (name : String) (part? : Json → Option α) (j : Json) :
    onlyPart? name part? (record [(name, j)]) = part? j := by
  simp [onlyPart?]

@[simp]
lemma VehicleState.ofJson?_toJson (s : VehicleState) : ofJson? s.toJson = some s := by
  cases s <;> rfl

@[simp]
lemma Scenario.ofJson?_toJson (s : Scenario) : ofJson? s.toJson = some s := by
  cases s <;> rfl

@[simp]
lemma Actuator.ofJson?_toJson (a : Actuator) : ofJson? a.toJson = some a := by
  cases a <;> rfl

@[simp]
lemma SensorFault.ofJson?_toJson (f : SensorFault) : ofJson? f.toJson = some f := by
  cases f with
  | offset deg => simp [ofJson?, toJson]
  | dropout => rfl
  | stuck => rfl

lemma optional_uint32 (n : Option UInt32) :
    optional Json.uint32? (some (ofOption uint32Json n)) = some n :=
  Json.optional_ofOption Json.uint32?_uint32Json (fun _ => nofun) n

@[simp]
lemma faultParts?_record (f : SensorFault) (n : Option UInt32) :
    faultParts? (record [("fault", f.toJson), ("duration_cycles", ofOption uint32Json n)]) =
      some (f, n) := by
  simp [faultParts?, optional_uint32]

lemma Request.ofJson?_toJson (r : Request) : ofJson? r.toJson = some r := by
  cases r with
  | ping | status | clearSensorFault | getDtcs | clearDtcs => rfl
  | _ => simp [ofJson?, toJson]

/-- A command is read back from its document. -/
lemma Command.ofJson?_toJson (c : Command) : ofJson? c.toJson = some c := by
  simp [ofJson?, toJson, Request.ofJson?_toJson]

/-! ## Documents and sizes -/

@[simp]
lemma SensorFault.exact_toJson (f : SensorFault) : Exact f.toJson := by
  cases f <;> simp [toJson]

lemma Request.exact_toJson (r : Request) : Exact r.toJson := by
  cases r <;> simp [toJson, VehicleState.toJson, Scenario.toJson, Actuator.toJson,
    Json.exact_ofOption]

lemma Command.exact_toJson (c : Command) : Exact c.toJson := by
  simp [toJson, Request.exact_toJson]

@[simp]
lemma Scenario.room_toJson_le (s : Scenario) : s.toJson.room ≤ 19 := by
  cases s <;> decide

@[simp]
lemma Actuator.room_toJson_le (a : Actuator) : a.toJson.room ≤ 10 := by
  cases a <;> decide

lemma Request.room_toJson_le (r : Request) : r.toJson.room ≤ 110 := by
  cases r with
  | ping | status | clearSensorFault | getDtcs | clearDtcs => decide
  | setSteering deg => exact (Json.room_variantJson_le [("deg", 11)] (by simp)).trans (by decide)
  | setBrake pct => exact (Json.room_variantJson_le [("pct", 11)] (by simp)).trans (by decide)
  | emergencyStop active =>
    exact (Json.room_variantJson_le [("active", 5)] (by simp)).trans (by decide)
  | setVehicleState state =>
    exact (Json.room_variantJson_le [("state", 10)] (by simp)).trans (by decide)
  | injectSensorFault fault duration =>
    exact (Json.room_variantJson_le [("fault", 36), ("duration_cycles", 10)]
      (by simp)).trans (by decide)
  | setFaultInjection enabled =>
    exact (Json.room_variantJson_le [("enabled", 5)] (by simp)).trans (by decide)
  | freezeCommands frozen =>
    exact (Json.room_variantJson_le [("frozen", 5)] (by simp)).trans (by decide)
  | runScenario scenario =>
    exact (Json.room_variantJson_le [("scenario", 19)] (by simp)).trans (by decide)
  | restart actuator =>
    exact (Json.room_variantJson_le [("actuator", 10)] (by simp)).trans (by decide)

/-- The text of a command is short of a quarter of what a command may take. -/
lemma Command.utf8ByteSize_message_le (c : Command) : c.message.utf8ByteSize ≤ 160 :=
  (Json.utf8ByteSize_compress_le c.toJson).trans
    ((Json.room_record_le [("id", 10), ("command_type", 110)]
      (by simp [Request.room_toJson_le])).trans (by decide))

/-! ## Handlers -/

namespace Buffer

variable {capacity : Nat}

/-- What a buffer is filled with does not depend on what it held. -/
lemma refill_of_le (b : Buffer capacity) {s : String} (h : s.utf8ByteSize ≤ capacity) :
    b.refill s = (⟨s, h⟩, .ok ()) := by
  have hpush : b.clear.tryPush s = some ⟨s, h⟩ := by
    simp [tryPush, clear, empty, h]
  rw [refill, hpush]

lemma refill_of_lt (b : Buffer capacity) {s : String} (h : capacity < s.utf8ByteSize) :
    b.refill s = (empty capacity, .error (.tooLarge capacity)) := by
  have hpush : b.clear.tryPush s = none := by
    simp [tryPush, clear, empty, h]
  rw [refill, hpush]
  rfl

/-- A buffer takes exactly what is within its bound. -/
lemma snd_refill (b : Buffer capacity) (s : String) :
    ((b.refill s).2.map fun _ => (b.refill s).1.text) = bounded capacity s := by
  rcases Nat.lt_or_ge capacity s.utf8ByteSize with h | h
  · rw [refill_of_lt b h, bounded, if_neg (Nat.not_le.2 h)]
    rfl
  · rw [refill_of_le b h, bounded, if_pos h]
    rfl

end Buffer

namespace Handler

/-- What a handler takes in does not depend on its history. -/
lemma parseCommand_snd (h : Handler) (s : String) :
    (h.parseCommand s).2 = Command.parse s := by
  rw [Command.parse, ← Buffer.snd_refill h.commandBuffer s]
  show ((h.commandBuffer.refill s).2.bind fun _ => Command.decode _) = _
  cases (h.commandBuffer.refill s).2 <;> rfl

lemma writeReply_snd (h : Handler) (r : Reply) : (h.writeReply r).2 = r.message? := by
  rw [Reply.message?, ← Buffer.snd_refill h.replyBuffer, writeReply]

lemma writeTelemetry_snd (h : Handler) (f : TelemetryFrame) :
    (h.writeTelemetry f).2 = f.message? := by
  rw [TelemetryFrame.message?, ← Buffer.snd_refill h.telemetryBuffer, writeTelemetry]

/-- A handler takes the text of a command for that command, blanks around it allowed as long as the
whole is not too long. -/
def Accepts (h : Handler) (c : Command) : Prop :=
  ∀ before after : String, (∀ d ∈ before.toList, Json.isBlank d) →
    (∀ d ∈ after.toList, Json.isBlank d) →
    (before ++ c.message ++ after).utf8ByteSize ≤ maxCommandSize →
    (h.parseCommand (before ++ c.message ++ after)).2 = .ok c

lemma accepts (h : Handler) (c : Command) : h.Accepts c := by
  intro before after hbefore hafter hsize
  have hread : Json.parse? (before ++ c.message ++ after) = some c.toJson := by
    rw [Json.parse?, Command.message, Json.compress, String.toList_append, String.toList_append,
      String.toList_ofList]
    exact Json.read?_write c.exact_toJson hbefore hafter
  rw [parseCommand_snd, Command.parse, bounded, if_pos hsize]
  show Command.decode _ = _
  rw [Command.decode, hread, Option.bind_some, Command.ofJson?_toJson]

/-- Every command goes over the wire unharmed: its text is short, holds no line end and is taken in
as that command by a handler of any history. A text that is too long is refused, and the handler
goes on taking in commands. -/
theorem commands_round_trip (calls : List Call) (c : Command) :
    c.message.utf8ByteSize ≤ maxCommandSize ∧
      (∀ d ∈ c.message.toList, d ≠ '\n' ∧ d ≠ '\r') ∧
      (run {} calls).Accepts c ∧
      ∀ s : String, maxCommandSize < s.utf8ByteSize →
        ((run {} calls).parseCommand s).2 = .error (.tooLarge maxCommandSize) ∧
          ((run {} calls).parseCommand s).1.Accepts c := by
  refine ⟨c.utf8ByteSize_message_le.trans (by decide), fun d hd => ?_, accepts _ c,
    fun s hs => ⟨?_, accepts _ c⟩⟩
  · rw [Command.message, Json.compress, String.toList_ofList] at hd
    have hprintable := Json.printable_write c.toJson d hd
    constructor <;> rintro rfl <;> exact absurd hprintable (by decide)
  · rw [parseCommand_snd, Command.parse, bounded, if_neg (Nat.not_le.2 hs)]
    rfl

/-- A text of one byte too many, and a command that comes after it between blanks. -/
theorem command_after_oversized :
    let oversized := String.ofList (List.replicate 513 'x')
    let c : Command := ⟨4294967295, .injectSensorFault (.offset (-2147483648)) none⟩
    maxCommandSize < oversized.utf8ByteSize ∧
      ((run {} [.nextId]).parseCommand oversized).2 = .error (.tooLarge maxCommandSize) ∧
      (((run {} [.nextId]).parseCommand oversized).1.parseCommand ("\t" ++ c.message ++ "\r\n")).2 =
        .ok c := by
  intro oversized c
  have hsize : maxCommandSize < oversized.utf8ByteSize := by
    rw [String.utf8ByteSize_ofList]
    decide +kernel
  obtain ⟨-, -, -, hoversized⟩ := commands_round_trip [.nextId] c
  obtain ⟨hrefused, haccepts⟩ := hoversized oversized hsize
  have hbefore : ∀ d ∈ "\t".toList, Json.isBlank d := by simp [Json.isBlank]
  have hafter : ∀ d ∈ "\r\n".toList, Json.isBlank d := by simp [Json.isBlank]
  exact ⟨hsize, hrefused, haccepts "\t" "\r\n" hbefore hafter (by decide +kernel)⟩

end Handler

end FrontZone
