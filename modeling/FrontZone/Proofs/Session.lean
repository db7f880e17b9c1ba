import FrontZone.Proofs.Simulation.MessageSize
import FrontZone.Proofs.Simulation.Replies
import FrontZone.Proofs.Wire.Calibration
import FrontZone.Session
/-!
# One reply to every line

`one_reply_per_line`: a session answers every line that is not blank by exactly one line, in order,
and ends only with the client's lines. `Exchange` says what goes back and forth: the texts asked
with, the lines sent back, and the simulation before and after, each text answered on the simulation
as the texts before it have left it. That serving makes such an exchange is an induction over the
lines (`serve_exchange`); the rest is read off the exchange. What is assumed is that the words for a
malformed text leave the reply short enough to be sent; all other replies are short in any case.
-/

namespace FrontZone

namespace Session

variable {diagnose : String → String}

/-! ## What is asked -/

/-- The texts that lines ask with: each without blanks at its ends, those with nothing else left
out. -/
def asked (lines : List String) : List String :=
  (lines.map Text.trim).filter (· ≠ "")

lemma asked_cons_of_blank {line : String} (h : Text.trim line = "") (lines : List String) :
    asked (line :: lines) = asked lines := by
  rw [asked, List.map_cons, List.filter_cons_of_neg (by simpa using h)]
  rfl

lemma asked_cons {line : String} (h : Text.trim line ≠ "") (lines : List String) :
    asked (line :: lines) = Text.trim line :: asked lines := by
  rw [asked, List.map_cons, List.filter_cons_of_pos (by simpa using h)]
  rfl

/-- The commands among texts. -/
def commandsIn (texts : List String) : List Command :=
  texts.filterMap fun text => (Command.parse text).toOption

/-- The simulation after the commands among texts, one after the other. -/
def after (s : Simulation) (texts : List String) : Simulation :=
  s.run ((commandsIn texts).map .command)

lemma after_of_ok (s : Simulation) {text : String} {c : Command} (h : Command.parse text = .ok c) :
    after s [text] = (s.execute c).value.1 := by
  rw [after, commandsIn, List.filterMap_cons, h]
  rfl

lemma after_of_error (s : Simulation) {text : String} {e : MessageError}
    (h : Command.parse text = .error e) : after s [text] = s := by
  rw [after, commandsIn, List.filterMap_cons, h]
  rfl

lemma after_cons (s : Simulation) (text : String) (texts : List String) :
    after s (text :: texts) = after (after s [text]) texts := by
  cases h : Command.parse text with
  | ok c =>
    rw [after_of_ok s h, after, commandsIn, List.filterMap_cons, h]
    rfl
  | error e =>
    rw [after_of_error s h, after, commandsIn, List.filterMap_cons, h]
    rfl

/-! ## What is answered -/

/-- A text is no command: it is too long, or it spells no document that is one. -/
def Refused (text : String) : Prop :=
  maxCommandSize < text.utf8ByteSize ∨ (Json.parse? text).bind Command.ofJson? = none

/-- Why a text is no command. -/
lemma parse_eq_error {text : String} {e : MessageError} (h : Command.parse text = .error e) :
    maxCommandSize < text.utf8ByteSize ∧ e = .tooLarge maxCommandSize ∨
      (Json.parse? text).bind Command.ofJson? = none ∧ e = .malformed := by
  unfold Command.parse bounded at h
  split at h
  · have h : Command.decode text = .error e := h
    unfold Command.decode at h
    split at h
    · exact nomatch h
    · next hnone => exact Or.inr ⟨hnone, (Except.error.inj h).symm⟩
  · next hsize => exact Or.inl ⟨Nat.not_le.1 hsize, (Except.error.inj h).symm⟩

lemma refused_of_error {text : String} {e : MessageError} (h : Command.parse text = .error e) :
    Refused text :=
  (parse_eq_error h).imp And.left And.left

/-- What a text is answered with: a command with the reply to it, under its number, and anything
else with number zero at the present cycle. -/
inductive Answered (s : Simulation) (text : String) : Reply → Prop
  | executed (c : Command) (hparse : Command.parse text = .ok c)
      (hid : (s.execute c).value.2.id = c.id) : Answered s text (s.execute c).value.2
  | refused (reason : String) (hrefused : Refused text) :
      Answered s text
        { id := 0, cycle := s.cycle, status := .invalidCommand, message := some reason }

/-- The words for malformed texts are few enough for the reply to be sent, in whatever cycle. -/
def Concise (diagnose : String → String) : Prop :=
  ∀ text, Command.parse text = .error .malformed → ∀ cycle : UInt64,
    (refusal cycle (reason diagnose text .malformed)).toJson.compress.utf8ByteSize ≤ maxReplySize

/-- A refusal in few words fits. -/
lemma utf8ByteSize_refusal_le {words : String} (h : words.utf8ByteSize ≤ 99) (cycle : UInt64) :
    (refusal cycle words).toJson.compress.utf8ByteSize ≤ maxReplySize := by
  refine (Json.utf8ByteSize_compress_le _).trans (Reply.room_toJson_le ?_ ?_)
  · rintro _ ⟨rfl⟩
    exact h
  · exact (by decide : Json.room .null ≤ 1300)

/-- Every refusal can be sent. -/
lemma message?_refusal (hconcise : Concise diagnose) {text : String} {e : MessageError}
    (h : Command.parse text = .error e) (cycle : UInt64) :
    (refusal cycle (reason diagnose text e)).message? =
      .ok (refusal cycle (reason diagnose text e)).toJson.compress := by
  refine Reply.message?_of_le ?_
  -- too long a text is refused in fixed words; only a malformed one is diagnosed
  rcases parse_eq_error h with ⟨-, rfl⟩ | ⟨-, rfl⟩
  · have hwords : (MessageError.tooLarge maxCommandSize).message.utf8ByteSize ≤ 99 := by
      decide +kernel
    exact utf8ByteSize_refusal_le hwords cycle
  · exact hconcise text h cycle

/-- A text is answered by a reply that can be sent, and only a command changes the simulation. -/
lemma answer_parse (hconcise : Concise diagnose) {s : Simulation} (hs : s.Bounded)
    (text : String) :
    ∃ reply, Answered s text reply ∧ reply.message? = .ok reply.toJson.compress ∧
      (answer diagnose s text (Command.parse text)).value = (after s [text], reply) := by
  cases hparse : Command.parse text with
  | ok c =>
    refine ⟨_, .executed c hparse (Simulation.id_execute s c),
      Reply.message?_of_room (Simulation.room_execute_le hs.entries_le c), ?_⟩
    rw [after_of_ok s hparse]
    rfl
  | error e =>
    refine ⟨_, .refused (reason diagnose text e) (refused_of_error hparse),
      message?_refusal hconcise hparse s.cycle, ?_⟩
    rw [after_of_error s hparse]
    rfl

/-! ## Serving a line -/

lemma serveLine_of_blank (p : Session) {line : String} (h : Text.trim line = "") :
    (serveLine diagnose p line).value = (p, .ok none) := by
  unfold serveLine
  rw [if_pos h]
  rfl

lemma serveLine_of_asked (hconcise : Concise diagnose) {p : Session} (hp : p.simulation.Bounded)
    {line : String} (h : Text.trim line ≠ "") :
    ∃ p' reply, (serveLine diagnose p line).value = (p', .ok (some reply.toJson.compress)) ∧
      p'.simulation = after p.simulation [Text.trim line] ∧
      Answered p.simulation (Text.trim line) reply := by
  obtain ⟨reply, hanswered, hmessage, hanswer⟩ := answer_parse hconcise hp (Text.trim line)
  refine ⟨⟨((p.handler.parseCommand (Text.trim line)).1.writeReply reply).1,
    after p.simulation [Text.trim line]⟩, reply, ?_, by dsimp only, hanswered⟩
  unfold serveLine
  rw [if_neg h]
  simp only [Logged.value_bind, Logged.value_pure, Handler.parseCommand_snd, hanswer,
    Handler.writeReply_snd, hmessage]
  rfl

/-! ## Serving lines -/

/-- Texts asked with and lines sent back, from one simulation to another. -/
inductive Exchange : Simulation → List String → List String → Simulation → Prop
  | nil (s : Simulation) : Exchange s [] [] s
  | cons {s s' : Simulation} {text : String} {texts sent : List String} {reply : Reply}
      (hanswer : Answered s text reply) (hrest : Exchange (after s [text]) texts sent s') :
      Exchange s (text :: texts) (reply.toJson.compress :: sent) s'

lemma bounded_after {s : Simulation} (hs : s.Bounded) (text : String) :
    (after s [text]).Bounded := by
  cases h : Command.parse text with
  | ok c => exact after_of_ok s h ▸ Simulation.bounded_execute hs c
  | error e => exact (after_of_error s h).symm ▸ hs

lemma serve_cons_of_blank (p : Session) {line : String} (h : Text.trim line = "")
    (lines : List (Option String)) :
    (serve diagnose (some line :: lines) p).value = (serve diagnose lines p).value := by
  rw [serve, Logged.value_bind, serveLine_of_blank p h]

lemma serve_cons_of_asked {p p' : Session} {line text : String}
    (h : (serveLine diagnose p line).value = (p', .ok (some text)))
    (lines : List (Option String)) :
    (serve diagnose (some line :: lines) p).value =
      { (serve diagnose lines p').value with
        sent := text :: (serve diagnose lines p').value.sent } := by
  rw [serve, Logged.value_bind, h]
  rfl

/-- Serving lines is an exchange with what they ask. -/
theorem serve_exchange (hconcise : Concise diagnose) (lines : List String) {p : Session}
    (hp : p.simulation.Bounded) :
    (serve diagnose (lines.map some) p).value.failure = none ∧
      Exchange p.simulation (asked lines) (serve diagnose (lines.map some) p).value.sent
        (serve diagnose (lines.map some) p).value.session.simulation := by
  induction lines generalizing p with
  | nil => exact ⟨rfl, .nil p.simulation⟩
  | cons line lines ih =>
    rw [List.map_cons]
    by_cases h : Text.trim line = ""
    · rw [serve_cons_of_blank p h, asked_cons_of_blank h]
      exact ih hp
    · -- the line leaves the simulation bounded, so its replies to the rest can be sent as well
      obtain ⟨p', reply, hline, hafter, hanswered⟩ := serveLine_of_asked hconcise hp h
      obtain ⟨hfailure, hexchange⟩ := ih (hafter ▸ bounded_after hp (Text.trim line))
      rw [hafter] at hexchange
      rw [serve_cons_of_asked hline, asked_cons h]
      exact ⟨hfailure, .cons hanswered hexchange⟩

/-! ## Reading an exchange -/

variable {s s' : Simulation} {texts sent : List String}

lemma Exchange.after_eq (h : Exchange s texts sent s') : s' = after s texts := by
  induction h with
  | nil s => rfl
  | cons _ _ ih => exact ih.trans (after_cons _ _ _).symm

lemma Exchange.length_eq (h : Exchange s texts sent s') : sent.length = texts.length := by
  induction h with
  | nil s => rfl
  | cons _ _ ih => rw [List.length_cons, List.length_cons, ih]

/-- Each text is answered on the simulation as the texts before it have left it. -/
lemma Exchange.answered (h : Exchange s texts sent s') {past later : List String} {text : String}
    (hsplit : texts = past ++ text :: later) :
    ∃ reply, Answered (after s past) text reply ∧
      sent[past.length]? = some reply.toJson.compress := by
  induction h generalizing past with
  | nil s => simp at hsplit
  | @cons s s' asking texts sent reply hanswer hrest ih =>
    -- the text is the one asked first, or the rest of the exchange has it
    cases past with
    | nil =>
      obtain ⟨rfl, rfl⟩ := List.cons.inj hsplit
      exact ⟨reply, hanswer, rfl⟩
    | cons first past =>
      obtain ⟨rfl, hrest⟩ := List.cons.inj hsplit
      obtain ⟨reply', hanswered, hsent⟩ := ih hrest
      exact ⟨reply', after_cons s asking past ▸ hanswered, hsent⟩

/-- A reply is sent as one line. -/
lemma no_line_end (r : Reply) : '\n' ∉ r.toJson.compress.toList := by
  intro h
  rw [Json.compress, String.toList_ofList] at h
  exact absurd (Json.printable_write _ _ h) (by decide)

/-- Whatever the simulation has been through and whatever the handler, every line of a client that
is not blank is answered by exactly one line, in order: a command by its reply, carried out once and
on the simulation as the lines before have left it, anything else by a refusal that changes nothing.
The session ends only with the client's lines. -/
theorem one_reply_per_line {z : ZoneCalibration} {s₀ : Simulation}
    (hstart : Simulation.ofCalibration z = .ok s₀) (ops : List Simulation.Operation)
    (handler : Handler) (hconcise : Concise diagnose) (lines : List String) :
    let s := s₀.operateAll ops
    let r := (serve diagnose (lines.map some) ⟨handler, s⟩).value
    r.failure = none ∧
      r.session.simulation = after s (asked lines) ∧
      r.sent.length = (asked lines).length ∧
      ∀ past text later, asked lines = past ++ text :: later →
        ∃ reply, Answered (after s past) text reply ∧
          r.sent[past.length]? = some reply.toJson.compress ∧
          '\n' ∉ reply.toJson.compress.toList := by
  intro s r
  have hbounded := Simulation.bounded_operateAll (Simulation.bounded_of_ofCalibration hstart) ops
  obtain ⟨hfailure, hexchange⟩ :=
    serve_exchange (p := ⟨handler, s⟩) hconcise lines hbounded
  refine ⟨hfailure, hexchange.after_eq, hexchange.length_eq, fun past text later hsplit => ?_⟩
  obtain ⟨reply, hanswered, hsent⟩ := hexchange.answered hsplit
  exact ⟨reply, hanswered, hsent, no_line_end reply⟩

/-- A blank line, one that is no document and a command, after one cycle. -/
theorem malformed_then_ping :
    let diagnose := fun _ : String => "expected ident at line 1 column 2"
    let ping := "\x7b\"id\":7,\"command_type\":\"Ping\"\x7d"
    let lines := [" \t\r\n", "nope\n", ping ++ "\r\n"]
    ∃ s₀, Simulation.ofCalibration {} = .ok s₀ ∧ Concise diagnose ∧
      asked lines = ["nope"] ++ ping :: [] ∧
      let s := s₀.operateAll [.tick]
      let r := (serve diagnose (lines.map some) ⟨{}, s⟩).value
      r.failure = none ∧ r.session.simulation = after s (asked lines) ∧
        r.sent.length = (asked lines).length ∧
        ∃ reply, Answered (after s ["nope"]) ping reply ∧
          r.sent[1]? = some reply.toJson.compress ∧ '\n' ∉ reply.toJson.compress.toList := by
  intro diagnose ping lines
  have hwords : (MessageError.malformed.message ++ ": " ++
      "expected ident at line 1 column 2").utf8ByteSize ≤ 99 := by decide +kernel
  have hconcise : Concise diagnose := fun _ _ => utf8ByteSize_refusal_le hwords
  have hasked : asked lines = ["nope"] ++ ping :: [] := by decide +kernel
  obtain ⟨s₀, hstart⟩ : ∃ s₀, Simulation.ofCalibration {} = .ok s₀ :=
    ZoneCalibration.exists_ofCalibration rfl
  obtain ⟨hfailure, hsimulation, hlength, hanswers⟩ :=
    one_reply_per_line hstart [.tick] {} hconcise lines
  exact ⟨s₀, hstart, hconcise, hasked, hfailure, hsimulation, hlength,
    hanswers ["nope"] ping [] hasked⟩

end Session

end FrontZone
