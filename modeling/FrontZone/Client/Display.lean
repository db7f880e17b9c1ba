import FrontZone.Diagnostics
import FrontZone.Json.Writer
/-!
# What the client shows

Replies and telemetry as text for people: as the document itself, in one short line, or as a table.
Documents inside a line are written as they are, whatever the width of their column; names and
faults are padded. A format that is neither `json` nor `compact` is shown as a table.
-/

namespace FrontZone

namespace Client

/-- A line with its end. -/
def line (s : String) : String := s ++ "\n"

/-- A text filled up to a width with blanks behind it. -/
def padRight (width : Nat) (s : String) : String :=
  s ++ String.ofList (List.replicate (width - s.length) ' ')

/-! ## Replies -/

/-- One stored trouble code. -/
def showEntry (entry : Json) : String :=
  let code := (entry.member "code").asNat?.getD 0
  let failed := (entry.member "test_failed").asBool?.getD false
  let occurrences := (entry.member "occurrences").asNat?.getD 0
  line ("   " ++ hexText 6 code ++ "  " ++ padRight 8 (if failed then "FAILED" else "passed") ++
    " occurrences " ++ toString occurrences)

/-- One actuator of the last report. -/
def showActuator (name : String) (report : Json) : String :=
  if report.isNull then line ("   " ++ padRight 9 name ++ " not running")
  else
    line ("   " ++ padRight 9 name ++ " duty " ++ (report.member "duty").compress ++ "  fault " ++
      (report.member "fault").asText?.getD "NoFault" ++ "  level " ++
      (report.member "disable_level").compress)

/-- The last report of the zone, if there is one. -/
def showReport (report : Json) : String :=
  if report.isNull then ""
  else
    showActuator "steering" (report.member "steering") ++
      showActuator "brake" (report.member "brake") ++
      line ("   safety " ++ (report.member "safety").compress ++ "  vehicle " ++
        (report.member "vehicle_state").compress)

/-- The data of a reply: stored trouble codes if it is an array, a status if not. -/
def showData (data : Json) : String :=
  match data with
  | .array [] => line "   no stored DTCs"
  | .array entries => String.join (entries.map showEntry)
  | _ =>
    line ("   cycle " ++ (data.member "cycle").compress) ++
      showReport (data.member "last_report") ++
      line ("   cutoff frames " ++ (data.member "cutoff_frames_sent").compress)

/-- The headline of a reply in a table. -/
def showOutcome (label status message : String) : String :=
  match status with
  | "Success" => line ("✅ " ++ label ++ ": " ++ message)
  | "Rejected" => line ("⚠️ " ++ label ++ " rejected: " ++ message)
  | _ => line ("❌ " ++ label ++ " failed (" ++ status ++ "): " ++ message)

/-- A reply to the command known by a label. -/
def showReply (label : String) (reply : Json) (format : String) : String :=
  let status := (reply.member "status").asText?.getD "Unknown"
  let message := (reply.member "message").asText?.getD ""
  match format with
  | "json" => line reply.compress
  | "compact" => if status = "Success" then line "OK" else line (status ++ " " ++ message)
  | _ =>
    let data := reply.member "data"
    showOutcome label status message ++ if data.isNull then "" else showData data

/-! ## Telemetry -/

/-- What is shown before any telemetry. -/
def monitorHeading (format : String) : String :=
  line "📡 Monitoring zone telemetry (Press Ctrl+C to stop)..." ++
    if format = "table" then
      line ("   cycle │ steer │ s.duty │ s.fault        │ s.lvl │ brake │ b.duty │ " ++
        "b.fault        │ safety")
    else ""

/-- The fault of an actuator as a cell of the table. -/
def faultCell (actuator : Json) : String :=
  padRight 14
    (if actuator.isNull then "NotRunning" else (actuator.member "fault").asText?.getD "NoFault")

/-- The verdict on the zone as one word. -/
def safetyWord (safety : String) : String :=
  match safety with
  | "Ok" => "OK"
  | "Degraded" => "DEGRADED"
  | _ => "FAULT"

/-- A telemetry frame in one short line. -/
def showFrameCompact (frame : Json) : String :=
  let steering := frame.member "steering"
  let brake := frame.member "brake"
  line ("[" ++ (frame.member "cycle").compress ++ "] " ++
    safetyWord ((frame.member "safety").asText?.getD "Ok") ++ " | steer " ++
    (steering.member "position").compress ++ " | brake " ++ (brake.member "position").compress ++
    " | mask " ++ hexText 2 ((frame.member "fault_mask").asNat?.getD 0))

/-- A telemetry frame as a row of the table. -/
def showFrameRow (frame : Json) : String :=
  let steering := frame.member "steering"
  let brake := frame.member "brake"
  line (" │ ".intercalate
    [(frame.member "cycle").compress,
      (steering.member "position").compress, (steering.member "duty").compress,
      faultCell steering, (steering.member "disable_level").compress,
      (brake.member "position").compress, (brake.member "duty").compress,
      faultCell brake, (frame.member "safety").asText?.getD "Ok"])

/-- A telemetry frame that came as a line. -/
def showFrame (text : String) (frame : Json) (format : String) : String :=
  match format with
  | "json" => line text
  | "compact" => showFrameCompact frame
  | _ => showFrameRow frame

end Client

end FrontZone
