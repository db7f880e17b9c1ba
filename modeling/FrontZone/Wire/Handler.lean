import FrontZone.Wire
/-!
# The message handler

A handler takes commands in and sends replies and telemetry out through buffers of fixed capacity,
one for each kind of message, and numbers the commands of a client. A buffer is emptied before it is
filled, and a text that does not fit leaves it empty, so one call is not affected by those before.
-/

namespace FrontZone

/-! ## Buffers -/

/-- A text of at most so many bytes. -/
structure Buffer (capacity : Nat) where
  text : String
  fits : text.utf8ByteSize ≤ capacity
  deriving Repr, DecidableEq

namespace Buffer

variable {capacity : Nat}

/-- A buffer that holds nothing. -/
def empty (capacity : Nat) : Buffer capacity := ⟨"", Nat.zero_le capacity⟩

/-- Appends a text, if there is room for all of it. -/
def tryPush (b : Buffer capacity) (s : String) : Option (Buffer capacity) :=
  if h : (b.text ++ s).utf8ByteSize ≤ capacity then some ⟨b.text ++ s, h⟩ else none

/-- The buffer emptied. -/
def clear (_ : Buffer capacity) : Buffer capacity := empty capacity

/-- Puts a text in place of what the buffer held; one that is too long leaves it empty. -/
def refill (b : Buffer capacity) (s : String) : Buffer capacity × Except MessageError Unit :=
  match b.clear.tryPush s with
  | some filled => (filled, .ok ())
  | none => (b.clear, .error (.tooLarge capacity))

end Buffer

/-! ## Handlers -/

/-- The buffers of one end of a connection and the numbers for its commands. -/
structure Handler where
  commandBuffer : Buffer maxCommandSize := .empty maxCommandSize
  replyBuffer : Buffer maxReplySize := .empty maxReplySize
  telemetryBuffer : Buffer maxTelemetrySize := .empty maxTelemetrySize
  counter : CommandCounter := {}
  deriving Repr, DecidableEq

namespace Handler

/-- Takes in a command. -/
def parseCommand (h : Handler) (s : String) : Handler × Except MessageError Command :=
  let (commandBuffer, filled) := h.commandBuffer.refill s
  ({ h with commandBuffer }, filled.bind fun _ => Command.decode commandBuffer.text)

/-- Makes the text of a reply. -/
def writeReply (h : Handler) (r : Reply) : Handler × Except MessageError String :=
  let (replyBuffer, filled) := h.replyBuffer.refill r.toJson.compress
  ({ h with replyBuffer }, filled.map fun _ => replyBuffer.text)

/-- Makes the text of a telemetry frame. -/
def writeTelemetry (h : Handler) (f : TelemetryFrame) : Handler × Except MessageError String :=
  let (telemetryBuffer, filled) := h.telemetryBuffer.refill f.toJson.compress
  ({ h with telemetryBuffer }, filled.map fun _ => telemetryBuffer.text)

/-- The number for the next command. -/
def nextId (h : Handler) : Handler × UInt32 :=
  let (counter, id) := h.counter.next
  ({ h with counter }, id)

/-- What a handler may be called for. -/
inductive Call where
  | parseCommand (s : String)
  | writeReply (r : Reply)
  | writeTelemetry (f : TelemetryFrame)
  | nextId

/-- The handler after one call. -/
def handle (h : Handler) : Call → Handler
  | .parseCommand s => (h.parseCommand s).1
  | .writeReply r => (h.writeReply r).1
  | .writeTelemetry f => (h.writeTelemetry f).1
  | .nextId => h.nextId.1

/-- The handler after a history of calls. -/
def run (h : Handler) (calls : List Call) : Handler :=
  calls.foldl handle h

end Handler

end FrontZone
