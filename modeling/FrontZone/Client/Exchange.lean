import FrontZone.Client.Display
import FrontZone.Json.Value
import FrontZone.Wire
/-!
# Talking to the simulation

Replies and telemetry come as lines on one connection. A command's reply is the first document with
a status and the command's number; a telemetry frame is a document with a sequence number. Lines of
neither kind are passed over, as are lines that spell no value.
-/

namespace FrontZone

namespace Client

/-- Whether a document is the reply to the command of a number. -/
def isReplyTo (id : UInt32) (value : Json) : Bool :=
  (value.member? "status").isSome && (value.member "id").asInt? = some id.toNat

/-- The reply to a command among lines that arrive, none if they end before it. -/
def awaitReply (id : UInt32) (lines : List String) : Option Json :=
  lines.findSome? fun l =>
    (Json.parseValue? l).bind fun v => if isReplyTo id v then some v else none

/-- What is said if the lines end before the reply. -/
def connectionClosed : String := "server closed connection"

/-- The telemetry frame of a line, if it is one. -/
def frameOf? (text : String) : Option Json :=
  (Json.parseValue? text).bind fun v => if (v.member? "sequence").isSome then some v else none

/-- What monitoring shows of one line. -/
def showLine (format : String) (text : String) : String :=
  match frameOf? text with
  | some frame => showFrame text frame format
  | none => ""

/-- What monitoring shows of lines that arrive. -/
def monitor (format : String) (lines : List String) : String :=
  monitorHeading format ++ String.join (lines.map (showLine format))

end Client

end FrontZone
