import FrontZone.Json.Reader
import FrontZone.Json.Writer
import FrontZone.Wire.Command
/-!
# Messages

Messages are documents of bounded size, one to a line. A command may be as long as 512 bytes, a
reply or a telemetry frame as long as 2048; sizes count the bytes of the UTF-8 text.
-/

namespace FrontZone

/-- The most bytes of a command. -/
def maxCommandSize : Nat := 512

/-- The most bytes of a reply. -/
def maxReplySize : Nat := 2048

/-- The most bytes of a telemetry frame. -/
def maxTelemetrySize : Nat := 2048

/-- Why a message cannot be taken or made. -/
inductive MessageError where
  | tooLarge (limit : Nat)
  | malformed
  deriving Repr, DecidableEq

/-- The reason in words. -/
def MessageError.message : MessageError → String
  | tooLarge limit => "message exceeds " ++ toString limit ++ " bytes"
  | malformed => "invalid json"

/-- A text if it is not too long. -/
def bounded (limit : Nat) (s : String) : Except MessageError String :=
  if s.utf8ByteSize ≤ limit then .ok s else .error (.tooLarge limit)

namespace Command

/-- The command that a text spells, however long. -/
def decode (s : String) : Except MessageError Command :=
  match (Json.parse? s).bind ofJson? with
  | some c => .ok c
  | none => .error .malformed

/-- The command that a text spells. -/
def parse (s : String) : Except MessageError Command := do
  decode (← bounded maxCommandSize s)

/-- The text of a command. -/
def message (c : Command) : String := c.toJson.compress

end Command

/-- The text of a reply. -/
def Reply.message? (r : Reply) : Except MessageError String :=
  bounded maxReplySize r.toJson.compress

/-- The text of a telemetry frame. -/
def TelemetryFrame.message? (f : TelemetryFrame) : Except MessageError String :=
  bounded maxTelemetrySize f.toJson.compress

/-- Numbers for commands, one after the other. -/
structure CommandCounter where
  last : UInt32 := 0
  deriving Repr, DecidableEq

/-- The next number. -/
def CommandCounter.next (c : CommandCounter) : CommandCounter × UInt32 :=
  (⟨c.last + 1⟩, c.last + 1)

end FrontZone
