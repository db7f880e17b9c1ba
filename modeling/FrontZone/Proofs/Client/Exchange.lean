import FrontZone.Client.Exchange
import FrontZone.Proofs.Simulation.MessageSize
import FrontZone.Proofs.Simulation.Replies
/-!
# Replies and telemetry told apart

Replies and telemetry frames share a connection. `told_apart`: whatever mix of frames, replies to
other commands and lines without a value comes first, waiting for a reply gives the value that its
text spells, and monitoring shows the frames in order and nothing else. It rests on the names that
the two kinds of message have at their top, as far as they survive being written and read
(`FrontZone.Proofs.Wire.Value`).

A reply can hold data that no receiver of arbitrary documents takes; such a line has no value and is
passed over like any other (`deep_reply_passed_over`). Replies of a simulation are never of that
kind. All of this is about lines that are texts.
-/

namespace FrontZone

namespace Client

open Json (Faithful)

/-! ## Lines -/

/-- What comes as one line. -/
inductive Line where
  | frame (f : TelemetryFrame)
  | reply (r : Reply)
  | noise

/-- A text is a line of that kind, as it is sent. Lines are texts: bytes that are none end the client
with an error of its input before they come to be a line. -/
def Line.Sent : Line → String → Prop
  | .frame f, text => f.message? = .ok text
  | .reply r, text => r.message? = .ok text
  | .noise, text => Json.parseValue? text = none

/-- A line is not the reply to the command of a number. -/
def Line.Passes (id : UInt32) : Line → Prop
  | .reply r => r.id ≠ id
  | _ => True

/-- The telemetry frame that a line is. -/
def Line.frame? : Line → Option TelemetryFrame
  | .frame f => some f
  | _ => none

lemma eq_of_bounded {limit : Nat} {s text : String} (h : bounded limit s = .ok text) :
    text = s := by
  unfold bounded at h
  split at h
  · exact (Except.ok.inj h).symm
  · exact nomatch h

/-! ## Waiting for a reply -/

lemma awaitReply_append (id : UInt32) (past later : List String) :
    awaitReply id (past ++ later) = (awaitReply id past).or (awaitReply id later) :=
  List.findSome?_append

lemma awaitReply_cons (id : UInt32) (text : String) (later : List String) :
    awaitReply id (text :: later) = (awaitReply id [text]).or (awaitReply id later) :=
  awaitReply_append id [text] later

lemma awaitReply_singleton (id : UInt32) (text : String) :
    awaitReply id [text] =
      (Json.parseValue? text).bind fun v => if isReplyTo id v then some v else none :=
  List.findSome?_singleton

lemma isReplyTo_frame (id : UInt32) (f : TelemetryFrame) :
    isReplyTo id f.toJson.sorted = false := by
  obtain ⟨-, -, hstatus⟩ := f.parseValue?_toJson
  rw [isReplyTo, hstatus]
  rfl

/-- Replies are known by their number. -/
lemma isReplyTo_reply {r : Reply} {v : Json} (h : Json.parseValue? r.toJson.compress = some v)
    (id : UInt32) : isReplyTo id v = decide (r.id = id) := by
  obtain ⟨hid, hstatus, -⟩ := Reply.member?_value h
  have hvalue : (v.member "id").asInt? = some (r.id.toNat : Int) := by
    rw [Json.member, hid]
    rfl
  have hnumber : (r.id.toNat : Int) = id.toNat ↔ r.id = id := by
    rw [Int.natCast_inj, UInt32.toNat_inj]
  rw [isReplyTo, hstatus, hvalue]
  simp [hnumber]

/-- No other line is taken for the reply. -/
lemma awaitReply_passing {id : UInt32} {line : Line} {text : String} (hsent : line.Sent text)
    (hpasses : line.Passes id) : awaitReply id [text] = none := by
  rw [awaitReply_singleton]
  cases line with
  | frame f =>
    obtain rfl := eq_of_bounded hsent
    rw [f.parseValue?_toJson.1, Option.bind_some, if_neg (by simp [isReplyTo_frame])]
  | reply r =>
    -- whatever its data, a reply that has a value has its number in it
    obtain rfl := eq_of_bounded hsent
    have hid : r.id ≠ id := hpasses
    cases hvalue : Json.parseValue? r.toJson.compress with
    | none => rfl
    | some v => rw [Option.bind_some, isReplyTo_reply hvalue, if_neg (by simpa using hid)]
  | noise => rw [show Json.parseValue? text = none from hsent, Option.bind_none]

/-- Other lines are all passed over. -/
lemma awaitReply_lines {id : UInt32} {lines : List Line} {texts : List String}
    (hsent : List.Forall₂ Line.Sent lines texts) (hpass : ∀ l ∈ lines, l.Passes id) :
    awaitReply id texts = none := by
  induction hsent with
  | nil => rfl
  | @cons line text lines texts hline _ ih =>
    obtain ⟨hfirst, hrest⟩ := List.forall_mem_cons.1 hpass
    rw [awaitReply_cons, awaitReply_passing hline hfirst, ih hrest, Option.or_none]

/-- The reply itself is taken for what its text spells. -/
lemma awaitReply_reply {id : UInt32} {r : Reply} (hid : r.id = id) :
    awaitReply id [r.toJson.compress] = Json.parseValue? r.toJson.compress := by
  rw [awaitReply_singleton]
  cases hvalue : Json.parseValue? r.toJson.compress with
  | none => rfl
  | some v => rw [Option.bind_some, isReplyTo_reply hvalue, if_pos (by simpa using hid)]

/-! ## Monitoring -/

/-- What monitoring shows of a frame. -/
def shown (format : String) (f : TelemetryFrame) : String :=
  showFrame f.toJson.compress f.toJson.sorted format

/-- A frame is shown, and no other line is. -/
lemma showLine_sent (format : String) {line : Line} {text : String} (h : line.Sent text) :
    showLine format text = (line.frame?.map (shown format)).getD "" := by
  unfold showLine frameOf?
  cases line with
  | frame f =>
    obtain rfl := eq_of_bounded h
    obtain ⟨hvalue, hsequence, -⟩ := f.parseValue?_toJson
    simp only [hvalue, Option.bind_some, hsequence, Option.isSome_some, if_true]
    rfl
  | reply r =>
    obtain rfl := eq_of_bounded h
    cases hvalue : Json.parseValue? r.toJson.compress with
    | none => rfl
    | some v =>
      obtain ⟨-, -, hsequence⟩ := Reply.member?_value hvalue
      simp only [Option.bind_some, hsequence]
      rfl
  | noise =>
    rw [show Json.parseValue? text = none from h]
    rfl

/-- The frames are shown in order. -/
lemma join_showLine (format : String) {lines : List Line} {texts : List String}
    (hsent : List.Forall₂ Line.Sent lines texts) :
    String.join (texts.map (showLine format)) =
      String.join ((lines.filterMap Line.frame?).map (shown format)) := by
  induction hsent with
  | nil => rfl
  | @cons line text lines texts hline _ ih =>
    rw [List.map_cons, String.join_cons, ih, showLine_sent format hline, List.filterMap_cons]
    cases line.frame? with
    | none => exact String.empty_append
    | some f => rw [List.map_cons, String.join_cons]; rfl

/-! ## Both at once -/

/-- Whatever mix of telemetry frames, replies to other commands and texts without a value comes
before the reply to a command, waiting for the reply gives the value that its text spells, or goes
on if it spells none, which is so for data nested too deeply. It is the value of the reply itself
exactly if the data is legible, as faithful data is and whatever a simulation replies with.
Monitoring shows every frame of such lines, in order, and nothing else. -/
theorem told_apart {lines : List Line} {texts : List String}
    (hsent : List.Forall₂ Line.Sent lines texts) :
    (∀ (c : Command) (r : Reply) (text : String) (later : List String),
        (∀ l ∈ lines, l.Passes c.id) → r.id = c.id → r.message? = .ok text →
        awaitReply c.id (texts ++ text :: later) =
            (Json.parseValue? text).or (awaitReply c.id later) ∧
          (Json.parseValue? text = some r.toJson.sorted ↔ r.Legible) ∧
          ((∀ j ∈ r.data, Faithful 126 j) → r.Legible) ∧
          ((∃ s : Simulation, r = (s.execute c).value.2) → r.Legible) ∧
          ((∃ j ∈ r.data, 126 < j.depth) → Json.parseValue? text = none)) ∧
      ∀ format, monitor format texts =
        monitorHeading format ++
          String.join ((lines.filterMap Line.frame?).map (shown format)) := by
  constructor
  · intro c r text later hpass hid hmessage
    obtain rfl := eq_of_bounded hmessage
    refine ⟨?_, r.parseValue?_toJson_iff, Reply.legible_of_faithful, ?_, ?_⟩
    · rw [awaitReply_append, awaitReply_lines hsent hpass, Option.none_or, awaitReply_cons,
        awaitReply_reply hid]
    · rintro ⟨s, rfl⟩
      exact Reply.legible_of_faithful (Simulation.faithful_execute s c)
    · rintro ⟨j, hj, hdeep⟩
      exact Reply.parseValue?_toJson_of_deep hj hdeep
  · intro format
    rw [monitor, join_showLine format hsent]

/-- A frame, a reply to another command and a line that is no document, before a reply with data. -/
theorem reply_after_others :
    let f : TelemetryFrame := {
      sequence := 7, cycle := 40, steering := none, brake := none, steeringFeedbackDeg := some (-3),
      faultMask := 1, safety := .degraded, vehicleState := .run, emergencyStop := false,
      activeDtcs := [⟨13631489⟩], cutoffFramesSent := 0, injectedFault := none }
    let other : Reply := { id := 2, cycle := 40, status := .rejected, message := some "later" }
    let c : Command := ⟨1, .ping⟩
    let r : Reply :=
      { id := 1, cycle := 41, status := .success, data := some (.array [.integer (-5), .null]) }
    let texts := [f.toJson.compress, other.toJson.compress, "not json"]
    List.Forall₂ Line.Sent [.frame f, .reply other, .noise] texts ∧
      (∀ l ∈ [Line.frame f, .reply other, .noise], l.Passes c.id) ∧ r.id = c.id ∧
      r.message? = .ok r.toJson.compress ∧ r.Legible ∧
      awaitReply c.id (texts ++ [r.toJson.compress]) = some r.toJson.sorted ∧
      monitor "json" texts = monitorHeading "json" ++ String.join [shown "json" f] := by
  intro f other c r texts
  have hframe : f.message? = .ok f.toJson.compress :=
    if_pos ((Json.utf8ByteSize_compress_le _).trans
      ((f.room_toJson_le (by decide)).trans (by decide)))
  have hother : other.message? = .ok other.toJson.compress :=
    Reply.message?_of_room
      (Reply.room_toJson_le (by rintro _ ⟨rfl⟩; decide +kernel) (by decide))
  have hmessage : r.message? = .ok r.toJson.compress :=
    Reply.message?_of_room
      (Reply.room_toJson_le (r := r) (fun _ h => nomatch h) (by decide))
  have hnoise : Json.parseValue? "not json" = none :=
    Option.isNone_iff_eq_none.1 (by decide +kernel)
  have hsent : List.Forall₂ Line.Sent [.frame f, .reply other, .noise] texts :=
    .cons hframe (.cons hother (.cons hnoise .nil))
  have hpass : ∀ l ∈ [Line.frame f, .reply other, .noise], l.Passes c.id := by
    simp [Line.Passes, other, c]
  have hlegible : r.Legible := by
    refine Reply.legible_of_faithful ?_
    rintro _ ⟨rfl⟩
    exact .array (by simp [Faithful.integer])
  obtain ⟨hreply, hmonitor⟩ := told_apart hsent
  obtain ⟨hawait, hvalue, -⟩ := hreply c r _ [] hpass rfl hmessage
  refine ⟨hsent, hpass, rfl, hmessage, hlegible, ?_, hmonitor "json"⟩
  rw [hawait, hvalue.2 hlegible, Option.some_or]

/-- Arrays one inside the other, `n` of them around an empty one. -/
def nested : Nat → Json
  | 0 => .array []
  | n + 1 => .array [nested n]

lemma depth_nested (n : Nat) : (nested n).depth = n + 1 := by
  induction n with
  | zero => rfl
  | succ n ih =>
    show max (nested n).depth 0 + 1 = _
    rw [ih, Nat.max_zero]

lemma room_nested_le (n : Nat) : (nested n).room ≤ 3 * n + 2 := by
  induction n with
  | zero => decide
  | succ n ih =>
    show 2 + ((nested n).room + 1 + 0) ≤ _
    omega

/-- A reply that can be sent, but is not found among lines: its data is nested too deeply. -/
theorem deep_reply_passed_over :
    let c : Command := ⟨1, .ping⟩
    let r : Reply := { id := 1, cycle := 0, status := .success, data := some (nested 126) }
    r.id = c.id ∧ r.message? = .ok r.toJson.compress ∧
      awaitReply c.id [r.toJson.compress] = none ∧
      awaitReply c.id [r.toJson.compress] ≠ some r.toJson.sorted := by
  intro c r
  have hroom : (r.data.getD .null).room ≤ 1300 := (room_nested_le 126).trans (by decide)
  have hmessage : r.message? = .ok r.toJson.compress :=
    Reply.message?_of_room (Reply.room_toJson_le (r := r) (fun _ h => nomatch h) hroom)
  have hdeep : 126 < (nested 126).depth := by
    rw [depth_nested]
    omega
  have hawait : awaitReply c.id [r.toJson.compress] = none := by
    rw [awaitReply_reply (r := r) rfl, Reply.parseValue?_toJson_of_deep rfl hdeep]
  exact ⟨rfl, hmessage, hawait, hawait ▸ nofun⟩

end Client

end FrontZone
