import FrontZone.Simulation.Execution
import FrontZone.Wire.Handler
/-!
# Sessions

A session serves one client: every line that is not blank is answered by one line, in order. A line
that is no command is answered as such, with number zero, and changes nothing. A session ends with
the client's lines, or early where bytes are no text or a reply cannot be written. What is wrong
with a text that spells no document of the wanted kind is put into words by whoever reads documents,
so it is left open here as `diagnose`.
-/

namespace FrontZone

/-! ## Blanks -/

namespace Text

/-- The code points with the Unicode property of white space. -/
def blankPoints : List Nat :=
  [0x09, 0x0A, 0x0B, 0x0C, 0x0D, 0x20, 0x85, 0xA0, 0x1680, 0x2000, 0x2001, 0x2002, 0x2003, 0x2004,
    0x2005, 0x2006, 0x2007, 0x2008, 0x2009, 0x200A, 0x2028, 0x2029, 0x202F, 0x205F, 0x3000]

/-- Whether a character is white space. -/
def isBlank (c : Char) : Bool :=
  blankPoints.contains c.toNat

/-- A text without white space at either end. -/
def trim (s : String) : String :=
  String.ofList ((s.toList.dropWhile isBlank).reverse.dropWhile isBlank).reverse

end Text

/-! ## Serving lines -/

/-- A simulation with the handler that takes in and sends out the messages of one client. -/
structure Session where
  handler : Handler := {}
  simulation : Simulation

namespace Session

/-- Why a session ends early. -/
inductive Failure where
  | notText
  | unwritable (error : MessageError)
  deriving Repr, DecidableEq

/-- The reason in words. -/
def Failure.message : Failure → String
  | notText => "stream did not contain valid UTF-8"
  | unwritable e => e.message

variable (diagnose : String → String)

/-- Why a text is no command, in words. -/
def reason (text : String) : MessageError → String
  | .tooLarge limit => MessageError.message (.tooLarge limit)
  | .malformed => MessageError.message .malformed ++ ": " ++ diagnose text

/-- The reply to a text that is no command. -/
def refusal (cycle : UInt64) (reason : String) : Reply where
  id := 0
  cycle
  status := .invalidCommand
  message := some reason

/-- Answers a text by what it was taken for. -/
def answer (s : Simulation) (text : String) :
    Except MessageError Command → Logged (Simulation × Reply)
  | .ok c => s.execute c
  | .error e => pure (s, refusal s.cycle (reason diagnose text e))

/-- Serves one line: the session after it and the line to send back, none for a blank line. -/
def serveLine (p : Session) (line : String) :
    Logged (Session × Except Failure (Option String)) :=
  let text := Text.trim line
  if text = "" then pure (p, .ok none)
  else do
    let (handler, parsed) := p.handler.parseCommand text
    let (simulation, reply) ← answer diagnose p.simulation text parsed
    let (handler, written) := handler.writeReply reply
    pure (⟨handler, simulation⟩, (written.map some).mapError .unwritable)

/-- What became of a session. -/
structure Result where
  session : Session
  /-- The lines sent back, in order. -/
  sent : List String
  failure : Option Failure

/-- Serves lines in order until they end or the session fails; a line whose bytes are no text comes
as none. -/
def serve : List (Option String) → Session → Logged Result
  | [], p => pure ⟨p, [], none⟩
  | none :: _, p => pure ⟨p, [], some .notText⟩
  | some line :: rest, p => do
    let (p, outcome) ← serveLine diagnose p line
    match outcome with
    | .error e => pure ⟨p, [], some e⟩
    | .ok none => serve rest p
    | .ok (some text) => do
      let r ← serve rest p
      pure { r with sent := text :: r.sent }

end Session

end FrontZone
